import HttpBridge.Form
import HttpBridge.Message.Request
/-!
Bodies of requests as bytes. Every type of body but plain text has a content type of its own, which
is used where the request does not give one.
-/

namespace HttpBridge

structure Payload where
  contentType : Option String
  bytes : List UInt8
  deriving DecidableEq

namespace Payload

def isEmpty (p : Payload) : Bool :=
  p.bytes.isEmpty

def text (s : String) : List UInt8 :=
  Utf8.encode s

def lineEnd : List UInt8 := text "\r\n"

def partHead (boundary : String) (index : Nat) : List UInt8 :=
  let name := "part" ++ toString index
  text ("--" ++ boundary ++ "\r\n"
    ++ "Content-Disposition: form-data; name=\"" ++ name ++ "\"; filename=\"" ++ name ++ "\"\r\n"
    ++ "Content-Type: application/octet-stream\r\n\r\n")

def encodeParts (boundary : String) : Nat → List (List UInt8) → List UInt8
  | _, [] => text ("--" ++ boundary ++ "--\r\n")
  | index, part :: parts =>
    partHead boundary index ++ part ++ lineEnd ++ encodeParts boundary (index + 1) parts

/-- Joins parts, each after a line with the boundary; nothing keeps the boundary from standing in a
part. -/
def multipart (boundary : String) (parts : List (List UInt8)) : Payload :=
  ⟨some ("multipart/form-data; boundary=" ++ boundary), encodeParts boundary 0 parts⟩

def ofBody (boundary : String) (b : Body) : Logged Payload :=
  match b.type with
  | .string => return ⟨none, text b.asString⟩
  | .form => return ⟨some "application/x-www-form-urlencoded", Form.encode b.asForm⟩
  | .byteArray => do return ⟨some "application/octet-stream", ← b.asBytes⟩
  | .multipart => do return multipart boundary (← b.asParts)

end Payload

end HttpBridge
