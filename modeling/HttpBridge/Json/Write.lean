import HttpBridge.Dict
import HttpBridge.Json.Fault
import HttpBridge.Text.Hex

namespace HttpBridge.Json

inductive Value
  | null
  | boolean (b : Bool)
  | integer (n : Int)
  | text (s : String)
  | list (items : List Value)
  | object (members : List (String × Value))

def escape (c : Char) : List Char :=
  match c with
  | '"' => ['\\', '"']
  | '\\' => ['\\', '\\']
  | '\x08' => ['\\', 'b']
  | '\x0c' => ['\\', 'f']
  | '\n' => ['\\', 'n']
  | '\r' => ['\\', 'r']
  | '\t' => ['\\', 't']
  | c =>
    if c < ' ' then ['\\', 'u', '0', '0', Text.hexDigit (c.toNat / 16), Text.hexDigit c.toNat]
    else [c]

def writeText (s : String) : List Char :=
  '"' :: s.toList.flatMap escape ++ ['"']

mutual

def Value.write : Value → List Char
  | .null => ['n', 'u', 'l', 'l']
  | .boolean b => (if b then "true" else "false").toList
  | .integer n => (toString n).toList
  | .text s => writeText s
  | .list items => '[' :: writeItems items ++ [']']
  | .object members => '\x7b' :: writeMembers members ++ ['\x7d']

def writeItems : List Value → List Char
  | [] => []
  | [v] => v.write
  | v :: vs => v.write ++ ',' :: writeItems vs

def writeMembers : List (String × Value) → List Char
  | [] => []
  | [(key, v)] => writeText key ++ ':' :: v.write
  | (key, v) :: rest => writeText key ++ ':' :: v.write ++ ',' :: writeMembers rest

end

def Value.render (v : Value) : String :=
  String.ofList v.write

/-- What can be handed to a writer. The names in a record are texts, while a map can have any data as
keys. -/
inductive Data
  | null
  | boolean (b : Bool)
  | integer (n : Int)
  | text (s : String)
  | list (items : List Data)
  | record (fields : List (String × Data))
  | map (entries : List (Data × Data))

def Data.key : Data → Except Flaw String
  | .boolean b => .ok (toString b)
  | .integer n => .ok (toString n)
  | .text s => .ok s
  | _ => .error .noKey

mutual

def Data.value : Data → Except Flaw Value
  | .null => .ok .null
  | .boolean b => .ok (.boolean b)
  | .integer n => .ok (.integer n)
  | .text s => .ok (.text s)
  | .list items => (itemValues items).map .list
  | .record fields => (fieldValues fields).map .object
  | .map entries => (entryValues entries).map .object

def itemValues : List Data → Except Flaw (List Value)
  | [] => .ok []
  | d :: ds => do
    let v ← d.value
    let vs ← itemValues ds
    return v :: vs

def fieldValues : List (String × Data) → Except Flaw (List (String × Value))
  | [] => .ok []
  | (name, d) :: rest => do
    let v ← d.value
    let vs ← fieldValues rest
    return (name, v) :: vs

def entryValues : List (Data × Data) → Except Flaw (List (String × Value))
  | [] => .ok []
  | (key, d) :: rest => do
    let key ← key.key
    let v ← d.value
    let vs ← entryValues rest
    return (key, v) :: vs

end

def Data.serialize (d : Data) : Except Flaw String :=
  d.value.map Value.render

def ofDict {α : Type} (data : α → Data) (d : Dict α) : Data :=
  .map (d.entries.map fun e => (.text e.1, data e.2))

def texts (ss : List String) : Data :=
  .list (ss.map .text)

end HttpBridge.Json
