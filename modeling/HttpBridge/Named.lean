import HttpBridge.Text.Blank
import HttpBridge.Text.Letter

namespace HttpBridge

structure UnknownVariant where
  kind : String
  value : String
  deriving DecidableEq, Repr

def UnknownVariant.message (u : UnknownVariant) : String :=
  "unknown " ++ u.kind ++ " '" ++ u.value ++ "'"

inductive LetterCase
  | upper
  | lower

def LetterCase.fold : LetterCase → String → String
  | .upper => Text.capitals
  | .lower => Text.smalls

def readName {α : Type} (kind : String) (letters : LetterCase) (names : List (String × α))
    (s : String) : Except UnknownVariant α :=
  match names.lookup (letters.fold (Text.trim s)) with
  | some a => .ok a
  | none => .error ⟨kind, s⟩

end HttpBridge
