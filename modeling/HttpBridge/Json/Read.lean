import HttpBridge.Dict
import HttpBridge.Decimal.Integer
import HttpBridge.Json.Node

namespace HttpBridge.Json

abbrev Reader (α : Type) := Node → Except Fault α

namespace Node

def unexpected (expected : String) : Node → Fault
  | .text ⟨.ok s, _⟩ => .mismatch (.wrongType (.text s) expected)
  | .text ⟨.error f, _⟩ => .flaw f
  | .scalar ⟨.ok s, _⟩ => .mismatch (.wrongType (.scalar s) expected)
  | .scalar ⟨.error f, _⟩ => .flaw f
  | .list _ => .mismatch (.wrongType .list expected)
  | .object _ => .mismatch (.wrongType .object expected)
  | .broken f => .flaw f

end Node

def textAs (expected : String) : Reader String
  | .text ⟨.ok s, _⟩ => .ok s
  | n => .error (n.unexpected expected)

def text : Reader String :=
  textAs "a string"

def boolean : Reader Bool
  | .scalar ⟨.ok (.boolean b), _⟩ => .ok b
  | n => .error (n.unexpected "a boolean")

def integer (name : String) (r : Decimal.Range) : Reader Int
  | .scalar ⟨.ok (.integer k), _⟩ =>
    if r.holds k then .ok k else .error (.mismatch (.wrongValue k name))
  | n => .error (n.unexpected name)

def null : Reader Unit
  | .scalar ⟨.ok .null, _⟩ => .ok ()
  | n => .error (n.unexpected "unit")

def option {α : Type} (read : Reader α) : Reader (Option α)
  | .scalar ⟨.ok .null, _⟩ => .ok none
  | n => (read n).map some

variable {α β δ : Type}

def Items.readAll (read : Reader α) : Items → Except Fault (List α)
  | .done => .ok []
  | .broken gap => .error (.flaw gap.inList)
  | .next head tail => do
    let a ← read head
    let rest ← tail.readAll read
    return a :: rest

def Items.finish : Items → Except Fault Unit
  | .done => .ok ()
  | .broken .ended => .error (.flaw .endInList)
  | .broken .comma => .error (.flaw .lastComma)
  | _ => .error (.flaw .trailing)

def list (read : Reader α) : Reader (List α)
  | .list items => items.readAll read
  | n => .error (n.unexpected "a sequence")

def pairName : String := "a tuple of size 2"

def Items.takeFrom (expected : String) (index : Nat) (read : Reader α) :
    Items → Except Fault (α × Items)
  | .done => .error (.mismatch (.wrongLength index expected))
  | .broken gap => .error (.flaw gap.inList)
  | .next head tail => (read head).map fun a => (a, tail)

def pair (first : Reader α) (second : Reader β) : Reader (α × β)
  | .list items => do
    let (a, items) ← items.takeFrom pairName 0 first
    let (b, items) ← items.takeFrom pairName 1 second
    items.finish
    return (a, b)
  | n => .error (n.unexpected pairName)

def Members.fold (step : δ → String → Node → Except Fault δ) : δ → Members → Except Fault δ
  | d, .done => .ok d
  | _, .broken gap => .error (.flaw gap.inObject)
  | _, .stray _ => .error (.flaw .noKey)
  | _, .next (.error f) _ _ => .error (.flaw f)
  | d, .next (.ok key) value tail => do tail.fold step (← step d key value)

def dict (read : Reader α) : Reader (Dict α)
  | .object members => members.fold (fun d key n => (read n).map (d.insert key)) ∅
  | n => .error (n.unexpected "a map")

structure Field (δ : Type) where
  name : String
  optional : Bool
  isSet : δ → Bool
  read : δ → Reader δ

def Field.of (name : String) (optional : Bool) (get : δ → Option α) (set : δ → α → δ)
    (read : Reader α) : Field δ where
  name := name
  optional := optional
  isSet d := (get d).isSome
  read d n := (read n).map (set d)

/-- A record that is written as an object, or as an array of its fields. -/
structure Shape (δ α : Type) where
  name : String
  blank : δ
  fields : List (Field δ)
  finish : δ → Except Fault α

namespace Shape

def lengthName (shape : Shape δ α) : String :=
  shape.name ++ " with " ++ toString shape.fields.length ++ " elements"

def member (shape : Shape δ α) (draft : δ) (key : String) (n : Node) : Except Fault δ :=
  match shape.fields.find? (·.name == key) with
  | none =>
    match n.skip with
    | some f => .error (.flaw f)
    | none => .ok draft
  | some field =>
    if field.isSet draft then .error (.mismatch (.duplicate key)) else field.read draft n

def elements (shape : Shape δ α) : Nat → List (Field δ) → δ → Items → Except Fault δ
  | _, [], draft, items => items.finish.map fun _ => draft
  | _, _ :: _, _, .broken gap => .error (.flaw gap.inList)
  | index, field :: fields, draft, .done =>
    if field.optional then shape.elements (index + 1) fields draft .done
    else .error (.mismatch (.wrongLength index shape.lengthName))
  | index, field :: fields, draft, .next head tail => do
    shape.elements (index + 1) fields (← field.read draft head) tail

def reader (shape : Shape δ α) : Reader α
  | .object members => do shape.finish (← members.fold shape.member shape.blank)
  | .list items => do shape.finish (← shape.elements 0 shape.fields shape.blank items)
  | n => .error (n.unexpected shape.name)

end Shape

def require (name : String) : Option α → Except Fault α
  | some a => .ok a
  | none => .error (.mismatch (.missing name))

def variant (known : List (String × α)) : Reader α := fun n => do
  let name ← textAs "variant identifier" n
  match known.lookup name with
  | some a => .ok a
  | none => .error (.mismatch (.unknown name (known.map (·.1))))

def enumeration (known : List (String × α)) : Reader α
  | .object .done => .error (.flaw .noValue)
  | .object (.broken _) => .error (.flaw .endInValue)
  | .object (.stray found) => variant known found
  | .object (.next (.error f) _ _) => .error (.flaw f)
  | .object (.next (.ok key) value tail) => do
    let a ← variant known (.text ⟨.ok key, none⟩)
    null value
    match tail with
    | .done => .ok a
    | .broken .ended => .error (.flaw .endInObject)
    | _ => .error (.flaw .noValue)
  | .text r => variant known (.text r)
  | .broken f => .error (.flaw f)
  | _ => .error (.flaw .noValue)

def decode (read : Reader α) (s : String) : Except Fault α :=
  let document := parse s
  match read document.root with
  | .ok a => if document.more then .error (.flaw .trailing) else .ok a
  | .error f => .error f

end HttpBridge.Json
