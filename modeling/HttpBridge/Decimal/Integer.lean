import HttpBridge.Decimal.Digits
/-!
Whole numbers as texts, read for a range of values. The digits are taken one by one, so of two
causes the one that comes first in the text is reported.
-/

namespace HttpBridge.Decimal

inductive IntegerFault
  | empty
  | badDigit
  | tooLarge
  | tooSmall
  deriving DecidableEq, Repr

def IntegerFault.message : IntegerFault → String
  | .empty => "cannot parse integer from empty string"
  | .badDigit => "invalid digit found in string"
  | .tooLarge => "number too large to fit in target type"
  | .tooSmall => "number too small to fit in target type"

structure Range where
  low : Int
  high : Int
  deriving DecidableEq, Repr

namespace Range

def unsigned (bits : Nat) : Range := ⟨0, (1 <<< bits : Nat) - 1⟩

def signed (bits : Nat) : Range := ⟨-(1 <<< (bits - 1) : Nat), (1 <<< (bits - 1) : Nat) - 1⟩

def holds (r : Range) (n : Int) : Bool :=
  r.low ≤ n && n ≤ r.high

end Range

def upward (r : Range) : Int → List Char → Except IntegerFault Int
  | n, [] => .ok n
  | n, c :: cs =>
    match digit? c with
    | none => .error .badDigit
    | some d => if n * 10 + d ≤ r.high then upward r (n * 10 + d) cs else .error .tooLarge

def downward (r : Range) : Int → List Char → Except IntegerFault Int
  | n, [] => .ok n
  | n, c :: cs =>
    match digit? c with
    | none => .error .badDigit
    | some d => if r.low ≤ n * 10 - d then downward r (n * 10 - d) cs else .error .tooSmall

def readIntegerChars (r : Range) : List Char → Except IntegerFault Int
  | [] => .error .empty
  | '+' :: cs => if cs.isEmpty then .error .badDigit else upward r 0 cs
  | '-' :: cs => if cs.isEmpty || r.low == 0 then .error .badDigit else downward r 0 cs
  | cs => upward r 0 cs

/-- Reads a whole number with an optional sign; a minus sign is a bad digit where the range has no
negative numbers. -/
def readInteger (r : Range) (s : String) : Except IntegerFault Int :=
  readIntegerChars r s.toList

end HttpBridge.Decimal
