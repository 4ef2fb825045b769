import HttpBridge.Decimal.Float
import HttpBridge.Decimal.Integer
import HttpBridge.Dict
import HttpBridge.Message.Body
import HttpBridge.Message.Method
import HttpBridge.Text.Parts

namespace HttpBridge

inductive ConfigFault
  | missingSetting (key : String)
  | invalidValue (key value reason : String)
  | invalidPattern (key : String)
  | unknownClient (id value : String)
  | missingDefault
  | duplicate (id : String)
  | trustStore (path reason : String)
  deriving DecidableEq, Repr

def ConfigFault.message : ConfigFault → String
  | missingSetting key => "missing required setting '" ++ key ++ "'"
  | invalidValue key value reason =>
    "invalid value '" ++ value ++ "' for setting '" ++ key ++ "': " ++ reason
  | invalidPattern key => "invalid regex for setting '" ++ key ++ "'"
  | unknownClient id value =>
    "unknown http client implementation '" ++ value ++ "' for configuration '" ++ id ++ "'"
  | missingDefault => "no default configuration registered"
  | duplicate id => "configuration '" ++ id ++ "' is registered more than once"
  | trustStore path reason => "cannot load trust store '" ++ path ++ "': " ++ reason

abbrev Parser (α : Type) := String → Except String α

namespace Parser

def integer (r : Decimal.Range) : Parser Int := fun s =>
  (Decimal.readInteger r s).mapError Decimal.IntegerFault.message

def uint32 : Parser UInt32 := fun s => (integer (.unsigned 32) s).map fun n => .ofNat n.toNat

def uint64 : Parser UInt64 := fun s => (integer (.unsigned 64) s).map fun n => .ofNat n.toNat

def int32 : Parser Int32 := fun s => (integer (.signed 32) s).map Int32.ofInt

def float : Parser Float := fun s =>
  (Decimal.readFloat s).mapError Decimal.FloatFault.message

def boolean : Parser Bool := fun s =>
  if s = "true" then .ok true
  else if s = "false" then .ok false
  else .error "provided string was not `true` or `false`"

def named {α : Type} (read : String → Except UnknownVariant α) : Parser α := fun s =>
  (read s).mapError UnknownVariant.message

def method : Parser Method := named Method.read

def bodyType : Parser BodyType := named BodyType.read

end Parser

def stripBeginning (beginning s : String) : Option String :=
  (Text.dropStart? beginning.toList s.toList).map String.ofList

structure Settings where
  values : Dict String
  deriving DecidableEq, Inhabited

namespace Settings

variable {α : Type}

def empty : Settings := ⟨∅⟩

instance : EmptyCollection Settings := ⟨empty⟩

def insert (s : Settings) (key value : String) : Settings :=
  ⟨s.values.insert key value⟩

def ofList (entries : List (String × String)) : Settings :=
  ⟨.ofList entries⟩

def get? (s : Settings) (key : String) : Option String :=
  s.values.find? key

/-- Gets a value that has to be there; a blank one counts as missing. -/
def require (s : Settings) (key : String) : Except ConfigFault String :=
  match s.get? key with
  | some value => if Text.allBlank value then .error (.missingSetting key) else .ok value
  | none => .error (.missingSetting key)

def parsed (s : Settings) (key : String) (parse : Parser α) : Except ConfigFault (Option α) :=
  match s.get? key with
  | none => .ok none
  | some raw =>
    match parse (Text.trim raw) with
    | .ok a => .ok (some a)
    | .error reason => .error (.invalidValue key raw reason)

def parsedOr (s : Settings) (key : String) (parse : Parser α) (default : α) :
    Except ConfigFault α :=
  (s.parsed key parse).map (·.getD default)

def boolean (s : Settings) (key : String) (default : Bool) : Except ConfigFault Bool :=
  s.parsedOr key .boolean default

def listItems (raw : List Char) : List String :=
  ((Text.splitWhere (· == ',') raw).map Text.trimChars).filter (· ≠ []) |>.map String.ofList

def list (s : Settings) (key : String) : List String :=
  match s.get? key with
  | some raw => listItems raw.toList
  | none => []

def under (s : Settings) (beginning : String) : Settings :=
  .ofList <| s.values.entries.filterMap fun e =>
    (stripBeginning beginning e.1).map fun key => (key, e.2)

def contains (s : Settings) (key : String) : Bool :=
  s.values.contains key

def size (s : Settings) : Nat :=
  s.values.size

def isEmpty (s : Settings) : Bool :=
  s.values.isEmpty

end Settings

end HttpBridge
