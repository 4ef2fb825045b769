import HttpBridge.Text.Hex
import HttpBridge.Text.Utf8

namespace HttpBridge.Url

/-- The ASCII characters that a part of an address encodes; all others beyond ASCII are encoded. -/
abbrev EncodeSet := Char → Bool

def isControl (c : Char) : Bool :=
  c < ' ' || c == '\x7f'

def controlSet : EncodeSet := isControl

def fragmentSet : EncodeSet := fun c =>
  isControl c || [' ', '"', '<', '>', '`'].contains c

def pathSet : EncodeSet := fun c =>
  fragmentSet c || ['#', '?', '\x7b', '\x7d'].contains c

def userSet : EncodeSet := fun c =>
  pathSet c || ['/', ':', ';', '=', '@', '[', '\\', ']', '^', '|'].contains c

def querySet : EncodeSet := fun c =>
  isControl c || [' ', '"', '#', '<', '>'].contains c

def webQuerySet : EncodeSet := fun c =>
  querySet c || c == '\''

def encodeByte (b : UInt8) : List Char :=
  ['%', Text.hexCapital (b.toNat / 16), Text.hexCapital b.toNat]

def encodeChar (set : EncodeSet) (c : Char) : List Char :=
  if 0x80 ≤ c.toNat || set c then (String.utf8EncodeChar c).flatMap encodeByte else [c]

def percentEncode (set : EncodeSet) (cs : List Char) : List Char :=
  cs.flatMap (encodeChar set)

def percentDecode : List Char → List UInt8
  | [] => []
  | '%' :: h :: l :: rest =>
    match Text.hexValue h, Text.hexValue l with
    | some a, some b => UInt8.ofNat (a * 16 + b) :: percentDecode rest
    | _, _ => 0x25 :: percentDecode (h :: l :: rest)
  | c :: rest => String.utf8EncodeChar c ++ percentDecode rest

end HttpBridge.Url
