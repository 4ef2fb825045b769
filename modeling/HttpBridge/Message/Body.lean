import HttpBridge.Base64
import HttpBridge.Dict
import HttpBridge.Log
import HttpBridge.Named
/-!
Bodies of requests. A request has one body of one type; bytes and parts are kept in base 64, as they
are written, and decoded when they are asked for.
-/

namespace HttpBridge

inductive BodyType
  | string
  | form
  | byteArray
  | multipart
  deriving DecidableEq, Repr, Inhabited

namespace BodyType

def name : BodyType → String
  | string => "STRING"
  | form => "FORM"
  | byteArray => "BYTE_ARRAY"
  | multipart => "MULTIPART"

def all : List BodyType :=
  [string, form, byteArray, multipart]

def names : List (String × BodyType) :=
  all.map fun t => (t.name, t)

def read (s : String) : Except UnknownVariant BodyType :=
  readName "body type" .upper names s

end BodyType

/-- What is kept of a body: a place for a body of each type, and the type that counts. -/
structure Body.Slots where
  type : BodyType
  string : String
  form : Dict String
  byteArray : String
  multipart : List String
  deriving DecidableEq

namespace Body.Slots

def clear (s : Slots) (type : BodyType) : Slots :=
  { s with type, string := "", form := ∅, byteArray := "", multipart := [] }

def withString (s : Slots) (text : String) : Slots :=
  { s.clear .string with string := text }

def withForm (s : Slots) (fields : Dict String) : Slots :=
  { s.clear .form with form := fields }

def withEncoded (s : Slots) (encoded : String) : Slots :=
  { s.clear .byteArray with byteArray := encoded }

def withEncodedParts (s : Slots) (encoded : List String) : Slots :=
  { s.clear .multipart with multipart := encoded }

def Blank (s : Slots) : BodyType → Prop
  | .string => s.string = ""
  | .form => s.form = ∅
  | .byteArray => s.byteArray = ""
  | .multipart => s.multipart = []

def Single (s : Slots) : Prop :=
  ∀ t, t ≠ s.type → s.Blank t

theorem withString_single (s : Slots) (text : String) : (s.withString text).Single := by
  intro t ht
  cases t with
  | string => exact absurd rfl ht
  | _ => rfl

theorem withForm_single (s : Slots) (fields : Dict String) : (s.withForm fields).Single := by
  intro t ht
  cases t with
  | form => exact absurd rfl ht
  | _ => rfl

theorem withEncoded_single (s : Slots) (encoded : String) : (s.withEncoded encoded).Single := by
  intro t ht
  cases t with
  | byteArray => exact absurd rfl ht
  | _ => rfl

theorem withEncodedParts_single (s : Slots) (encoded : List String) :
    (s.withEncodedParts encoded).Single := by
  intro t ht
  cases t with
  | multipart => exact absurd rfl ht
  | _ => rfl

end Body.Slots

structure Body extends Body.Slots where
  single : toSlots.Single
  deriving DecidableEq

namespace Body

def empty : Body where
  type := .string
  string := ""
  form := ∅
  byteArray := ""
  multipart := []
  single t _ := by cases t <;> rfl

instance : Inhabited Body := ⟨empty⟩

def withString (b : Body) (text : String) : Body :=
  ⟨b.toSlots.withString text, b.toSlots.withString_single text⟩

def withForm (b : Body) (fields : Dict String) : Body :=
  ⟨b.toSlots.withForm fields, b.toSlots.withForm_single fields⟩

def withEncoded (b : Body) (encoded : String) : Body :=
  ⟨b.toSlots.withEncoded encoded, b.toSlots.withEncoded_single encoded⟩

def withEncodedParts (b : Body) (encoded : List String) : Body :=
  ⟨b.toSlots.withEncodedParts encoded, b.toSlots.withEncodedParts_single encoded⟩

def withBytes (b : Body) (bytes : List UInt8) : Body :=
  b.withEncoded (Base64.encode bytes)

def withParts (b : Body) (parts : List (List UInt8)) : Body :=
  b.withEncodedParts (parts.map Base64.encode)

def asString (b : Body) : String :=
  if b.type = .string then b.string else ""

def asForm (b : Body) : Dict String :=
  if b.type = .form then b.form else ∅

/-- Decodes a block; one that is not valid counts as empty. -/
def decodeBlock (encoded : String) : Logged (List UInt8) := do
  match Base64.decode encoded with
  | .ok bytes => return bytes
  | .error f =>
    .warn ("Ignoring body block that is not valid base64: " ++ f.message)
    return []

def asBytes (b : Body) : Logged (List UInt8) :=
  if b.type = .byteArray then decodeBlock b.byteArray else return []

def asParts (b : Body) : Logged (List (List UInt8)) :=
  if b.type = .multipart then b.multipart.mapM decodeBlock else return []

end Body

end HttpBridge
