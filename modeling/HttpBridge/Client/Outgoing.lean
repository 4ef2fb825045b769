import HttpBridge.Client.Payload
import HttpBridge.Url.Address
import HttpBridge.Url.Target
/-!
Requests as they are handed to a client library, and what either library makes of them: one reads
addresses as a browser does, the other takes them byte by byte.
-/

namespace HttpBridge

structure Submission where
  method : Method
  url : String
  headers : List (String × String)
  body : List UInt8
  deriving DecidableEq

def contentTypeName : String := "Content-Type"

/-- Gives the headers of a request; the content type of its body is added under the given spelling
if the request has none under any. -/
def sentHeaders (typeName : String) (r : Request) (p : Payload) : List (String × String) :=
  match p.contentType with
  | some type =>
    if r.hasHeader contentTypeName then r.headers.fields
    else r.headers.fields ++ [(typeName, type)]
  | none => r.headers.fields

def Submission.of (typeName boundary : String) (r : Request) : Logged Submission := do
  let payload ← Payload.ofBody boundary r.body
  return ⟨r.method, r.url, sentHeaders typeName r payload, payload.bytes⟩

namespace Header

def lower (h : String × String) : String × String :=
  (Text.lowerAscii h.1, h.2)

def isTokenChar (c : Char) : Bool :=
  c.isAlphanum || "!#$%&'*+-.^_`|~".toList.contains c

def maxNameLength : Nat := 65535

def isName (s : String) : Bool :=
  s != "" && s.length ≤ maxNameLength && s.toList.all isTokenChar

def isValue (s : String) : Bool :=
  s.toList.all fun c => c == '\t' || (' ' ≤ c && c != '\x7f')

end Header

def Submission.lowered (s : Submission) : Submission :=
  { s with headers := s.headers.map Header.lower }

structure BuiltRequest where
  method : Method
  url : Url
  headers : List (String × String)
  body : List UInt8

def BuiltRequest.submission (r : BuiltRequest) : Submission :=
  ⟨r.method, r.url.render, r.headers, r.body⟩

namespace Lenient

def typeName : String := "content-type"

inductive Fault
  | unbuilt
  | unbuiltFor (url : String)
  | unsent (url : String)
  | unread
  deriving DecidableEq

def Fault.message : Fault → String
  | .unbuilt => "builder error"
  | .unbuiltFor url => "builder error for url (" ++ url ++ ")"
  | .unsent url => "error sending request for url (" ++ url ++ ")"
  | .unread => "error decoding response body"

/-- Takes user and password out of an address. A user that is not UTF-8 when decoded stays in it. -/
def takeLogin (u : Url) : Url × Option (String × Option String) :=
  match u.authority with
  | none => (u, none)
  | some a =>
    match Utf8.decode? (Url.percentDecode a.user) with
    | none => (u, none)
    | some user =>
      let password := if a.password.isEmpty then none
        else Utf8.decode? (Url.percentDecode a.password)
      if user.isEmpty && password.isNone then (u, none)
      else (u.withoutLogin, some (user, password))

def basicAuthorization (user : String) (password : Option String) : String :=
  "Basic " ++ Base64.encode (Utf8.encode (user ++ ":" ++ password.getD ""))

def build (s : Submission) : Except Fault BuiltRequest :=
  match Url.read s.url with
  | none => .error .unbuilt
  | some url =>
    if !url.hasHost then .error (.unbuiltFor url.render)
    else if !s.headers.all fun h => Header.isName h.1 && Header.isValue h.2 then .error .unbuilt
    else
      let (url, login) := takeLogin url
      let authorization := match login with
        | some (user, password) => [("authorization", basicAuthorization user password)]
        | none => []
      .ok {
        method := s.method
        url
        headers := authorization ++ s.headers.map Header.lower
        body := s.body }

def sendableSchemes : List String := ["http", "https"]

def check (r : BuiltRequest) : Except Fault Unit :=
  let text := r.url.render
  if !sendableSchemes.contains (String.ofList r.url.scheme) then .error (.unbuiltFor text)
  else match Target.read text with
    | .ok _ => .ok ()
    | .error _ => .error (.unbuiltFor text)

end Lenient

namespace Strict

def typeName : String := "Content-Type"

inductive Fault
  | target (f : Target.Fault)
  | headerName
  | headerValue
  | missingScheme (text : String)
  | unknownScheme (scheme : String)
  | connection (cause : String)
  deriving DecidableEq

def Fault.message : Fault → String
  | .target f => f.message
  | .headerName => "invalid HTTP header name"
  | .headerValue => "failed to parse header value"
  | .missingScheme text => "bad uri: " ++ text ++ " is missing scheme"
  | .unknownScheme scheme => "bad uri: unknown scheme: " ++ scheme
  | .connection cause => "io: " ++ cause

def checkHeader (h : String × String) : Except Fault Unit :=
  if !Header.isName h.1 then .error .headerName
  else if !Header.isValue h.2 then .error .headerValue
  else .ok ()

def build (s : Submission) : Except Fault Target := do
  let goal ← (Target.read s.url).mapError Fault.target
  s.headers.forM checkHeader
  return goal

def check (t : Target) : Except Fault Unit :=
  match t.scheme with
  | none => .error (.missingScheme t.render)
  | some scheme =>
    if scheme = "http" || scheme = "https" then .ok () else .error (.unknownScheme scheme)

end Strict

end HttpBridge
