import HttpBridge.Message.Body
import HttpBridge.Message.Method
/-!
Requests to send. Headers are kept under the names they were given; a lookup ignores the case of a
name and finds the first one in order that fits.
-/

namespace HttpBridge

abbrev Headers := Dict (List String)

namespace Headers

def add (h : Headers) (name value : String) : Headers :=
  h.insert name ((h.find? name).getD [] ++ [value])

def lookup (h : Headers) (name : String) : Option (List String) :=
  (h.entries.find? fun e => Text.sameName e.1 name).map (·.2)

/-- Gives name and value of every header that is sent; a name without values sends none. -/
def fields (h : Headers) : List (String × String) :=
  h.entries.flatMap fun e => e.2.map fun value => (e.1, value)

def ofFields (fields : List (String × String)) : Headers :=
  fields.foldl (fun h f => h.add f.1 f.2) ∅

end Headers

structure Request where
  url : String
  headers : Headers
  method : Method
  body : Body
  deriving DecidableEq, Inhabited

namespace Request

def new (url : String) (method : Method) : Request :=
  ⟨url, ∅, method, .empty⟩

def get (url : String) : Request :=
  new url .get

def withHeaders (r : Request) (headers : Headers) : Request :=
  { r with headers }

def withHeader (r : Request) (name value : String) : Request :=
  { r with headers := r.headers.add name value }

def withString (r : Request) (text : String) : Request :=
  { r with body := r.body.withString text }

def withForm (r : Request) (fields : Dict String) : Request :=
  { r with body := r.body.withForm fields }

def withBytes (r : Request) (bytes : List UInt8) : Request :=
  { r with body := r.body.withBytes bytes }

def withParts (r : Request) (parts : List (List UInt8)) : Request :=
  { r with body := r.body.withParts parts }

def bodyType (r : Request) : BodyType :=
  r.body.type

def headerValues (r : Request) (name : String) : Option (List String) :=
  r.headers.lookup name

def hasHeader (r : Request) (name : String) : Bool :=
  (r.headerValues name).isSome

end Request

end HttpBridge
