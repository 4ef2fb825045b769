import HttpBridge.Decimal.Shortest
import HttpBridge.Text.Quoted

namespace HttpBridge.Json

inductive Scalar
  | null
  | boolean (b : Bool)
  | integer (n : Int)
  | float (x : Float)
  deriving DecidableEq

inductive Found
  | scalar (s : Scalar)
  | text (s : String)
  | list
  | object
  deriving DecidableEq

def Scalar.message : Scalar → String
  | .null => "null"
  | .boolean b => "boolean `" ++ toString b ++ "`"
  | .integer n => "integer `" ++ toString n ++ "`"
  | .float x => "floating point `" ++ Decimal.reported x ++ "`"

def Found.message : Found → String
  | .scalar s => s.message
  | .text s => "string " ++ Text.quote s
  | .list => "sequence"
  | .object => "map"

inductive Mismatch
  | wrongType (found : Found) (expected : String)
  | wrongValue (found : Int) (expected : String)
  | wrongLength (length : Nat) (expected : String)
  | missing (field : String)
  | duplicate (field : String)
  | unknown (variant : String) (known : List String)
  | rejected (message : String)
  deriving DecidableEq

def Mismatch.message : Mismatch → String
  | .wrongType found expected => "invalid type: " ++ found.message ++ ", expected " ++ expected
  | .wrongValue found expected =>
    "invalid value: " ++ (Scalar.integer found).message ++ ", expected " ++ expected
  | .wrongLength n expected => "invalid length " ++ toString n ++ ", expected " ++ expected
  | .missing field => "missing field `" ++ field ++ "`"
  | .duplicate field => "duplicate field `" ++ field ++ "`"
  | .unknown variant known =>
    "unknown variant `" ++ variant ++ "`, expected one of "
      ++ ", ".intercalate (known.map fun name => "`" ++ name ++ "`")
  | .rejected message => message

inductive Flaw
  | endInValue
  | endInText
  | endInList
  | endInObject
  | noValue
  | noName
  | noColon
  | noListEnd
  | noObjectEnd
  | noKey
  | lastComma
  | trailing
  | badEscape
  | badNumber
  | numberTooLarge
  | controlCharacter
  | loneHalf
  | openPair
  deriving DecidableEq

namespace Flaw

def isCutOff : Flaw → Bool
  | endInValue | endInText | endInList | endInObject => true
  | _ => false

def message : Flaw → String
  | endInValue => "EOF while parsing a value"
  | endInText => "EOF while parsing a string"
  | endInList => "EOF while parsing a list"
  | endInObject => "EOF while parsing an object"
  | noValue => "expected value"
  | noName => "expected ident"
  | noColon => "expected `:`"
  | noListEnd => "expected `,` or `]`"
  | noObjectEnd => "expected `,` or `\x7d`"
  | noKey => "key must be a string"
  | lastComma => "trailing comma"
  | trailing => "trailing characters"
  | badEscape => "invalid escape"
  | badNumber => "invalid number"
  | numberTooLarge => "number out of range"
  | controlCharacter =>
    "control character (\\u0000-\\u001F) found while parsing a string"
  | loneHalf => "lone leading surrogate in hex escape"
  | openPair => "unexpected end of hex escape"

end Flaw

inductive Fault
  | flaw (f : Flaw)
  | mismatch (m : Mismatch)
  deriving DecidableEq

def Fault.message : Fault → String
  | .flaw f => f.message
  | .mismatch m => m.message

end HttpBridge.Json
