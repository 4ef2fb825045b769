import HttpBridge.Client.Settings

namespace HttpBridge

structure RequestPredicate where
  url : Option Pattern
  method : Option Method
  bodyType : Option BodyType
  headerKey : Option String
  headerValue : Option Pattern

namespace RequestPredicate

def urlKey := "url.regex"
def methodKey := "method"
def bodyTypeKey := "bodytype"
def headerKeyKey := "header.key"
def headerValueKey := "header.value"

def any : RequestPredicate := ⟨none, none, none, none, none⟩

def withUrl (p : RequestPredicate) (url : Pattern) : RequestPredicate :=
  { p with url := some url }

def withMethod (p : RequestPredicate) (method : Method) : RequestPredicate :=
  { p with method := some method }

def withBodyType (p : RequestPredicate) (bodyType : BodyType) : RequestPredicate :=
  { p with bodyType := some bodyType }

def withHeader (p : RequestPredicate) (key : String) (value : Option Pattern) : RequestPredicate :=
  { p with headerKey := some key, headerValue := value }

def isCatchAll (p : RequestPredicate) : Bool :=
  p.url.isNone && p.method.isNone && p.bodyType.isNone && p.headerKey.isNone

def ofSettings (s : Settings) : Except ConfigFault RequestPredicate := do
  let url ← s.pattern urlKey
  let method ← s.parsed methodKey .method
  let bodyType ← s.parsed bodyTypeKey .bodyType
  match s.get? headerKeyKey with
  | some key => return ⟨url, method, bodyType, some key, ← s.pattern headerValueKey⟩
  | none =>
    if s.contains headerValueKey then throw (.missingSetting headerKeyKey)
    else return ⟨url, method, bodyType, none, none⟩

def headerMatches (p : RequestPredicate) (r : Request) (key : String) : Bool :=
  match r.headerValues key with
  | none => false
  | some values =>
    match p.headerValue with
    | none => true
    | some pattern => values.any pattern.isMatch

def isMatch (p : RequestPredicate) (r : Request) : Bool :=
  p.url.all (·.isMatch r.url) && p.method.all (· == r.method) && p.bodyType.all (· == r.bodyType)
    && p.headerKey.all (p.headerMatches r)

end RequestPredicate

end HttpBridge
