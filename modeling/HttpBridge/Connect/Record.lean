import HttpBridge.Message.Wire
/-!
Records that go into the bridge and come out of it. The value of a record that goes in is a request,
the value of one that comes out is an exchange, both as JSON texts.
-/

namespace HttpBridge

structure Record where
  topic : String
  key : Option String
  value : String
  headers : List (String × String)
  deriving DecidableEq, Inhabited

namespace Record

open Json (Data Field Flaw Shape Fault)

def new (topic value : String) : Record :=
  ⟨topic, none, value, []⟩

def withKey (r : Record) (key : String) : Record :=
  { r with key := some key }

def withHeader (r : Record) (name value : String) : Record :=
  { r with headers := r.headers ++ [(name, value)] }

def data (r : Record) : Data :=
  .record [
    ("topic", .text r.topic),
    ("key", match r.key with
      | some key => .text key
      | none => .null),
    ("value", .text r.value),
    ("headers", .list (r.headers.map fun h => .list [.text h.1, .text h.2]))]

def serialize (r : Record) : Except Flaw String :=
  r.data.serialize

structure Draft where
  topic : Option String
  key : Option (Option String)
  value : Option String
  headers : Option (List (String × String))

def Draft.finish (d : Draft) : Except Fault Record := do
  let topic ← Json.require "topic" d.topic
  let value ← Json.require "value" d.value
  return ⟨topic, d.key.getD none, value, d.headers.getD []⟩

def shape (name : String) : Shape Draft Record where
  name := name
  blank := ⟨none, none, none, none⟩
  fields := [
    .of "topic" false (·.topic) (fun d a => { d with topic := some a }) Json.text,
    .of "key" false (·.key) (fun d a => { d with key := some a }) (Json.option Json.text),
    .of "value" false (·.value) (fun d a => { d with value := some a }) Json.text,
    .of "headers" true (·.headers) (fun d a => { d with headers := some a })
      (Json.list (Json.pair Json.text Json.text))]
  finish := Draft.finish

def sinkName := "struct SinkRecord"

def sourceName := "struct SourceRecord"

def decode (name : String) (s : String) : Except Fault Record :=
  Json.decode (shape name).reader s

end Record

end HttpBridge
