import HttpBridge.Dict
import HttpBridge.Text.Utf8
import HttpBridge.Url.Percent

namespace HttpBridge.Form

def isPlain (b : UInt8) : Bool :=
  let c := Char.ofNat b.toNat
  c.isAlphanum || c == '*' || c == '-' || c == '.' || c == '_'

def encodeByte (b : UInt8) : List Char :=
  if isPlain b then [Char.ofNat b.toNat]
  else if b = 0x20 then ['+']
  else Url.encodeByte b

def encodeText (s : String) : List Char :=
  (Utf8.encode s).flatMap encodeByte

def encodePair (pair : String × String) : List Char :=
  encodeText pair.1 ++ '=' :: encodeText pair.2

def encodePairs : List (String × String) → List Char
  | [] => []
  | [pair] => encodePair pair
  | pair :: rest => encodePair pair ++ '&' :: encodePairs rest

def encode (form : Dict String) : List UInt8 :=
  Utf8.encodeChars (encodePairs form.entries)

end HttpBridge.Form
