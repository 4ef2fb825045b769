import HttpBridge.Decimal.Bits
import HttpBridge.Decimal.Digits
/-!
Texts read as floating-point numbers. A decimal text stands for a fraction of natural numbers, and
the value is the float next to it, with ties to the even one.
-/

namespace HttpBridge.Decimal

inductive FloatFault
  | empty
  | malformed
  deriving DecidableEq, Repr

def FloatFault.message : FloatFault → String
  | .empty => "cannot parse float from empty string"
  | .malformed => "invalid float literal"

def divideNearest (n d : Nat) : Nat :=
  let q := n / d
  let r := n % d
  if 2 * r > d || (2 * r == d && q % 2 == 1) then q + 1 else q

def unitsOf (n d : Nat) (e : Int) : Nat :=
  match e with
  | .ofNat k => divideNearest n (d <<< k)
  | .negSucc k => divideNearest (n <<< (k + 1)) d

def unitExponent (n d : Nat) : Int :=
  let guess : Int := (Nat.log2 n : Int) - (Nat.log2 d : Int) - 53
  let wide : Bool := match guess with
    | .ofNat k => d <<< k <<< 53 ≤ n
    | .negSucc k => d <<< 53 ≤ n <<< (k + 1)
  max (-1074) (if wide then guess + 1 else guess)

/-- Gives the bits of the float nearest to `n / d`. Since the bits of floats count upwards with
their values, a mantissa that is rounded up to the next power of two needs no care. -/
def nearestBits (n d : Nat) : Nat :=
  if n = 0 then 0 else
    let e := unitExponent n d
    min infinityBits ((e + 1074).toNat * fractionSize + unitsOf n d e)

/-- Gives the bits of the float nearest to `digits` times a power of ten. Beyond the bounds the
result is known without computing the power. -/
def scaledBits (digits : Nat) (exponent : Int) : Nat :=
  let magnitude : Int := (Nat.toDigits 10 digits).length + exponent
  if digits = 0 || magnitude < -330 then 0
  else if magnitude > 310 then infinityBits
  else match exponent with
    | .ofNat k => nearestBits (digits * .pow 10 k) 1
    | .negSucc k => nearestBits digits (.pow 10 (k + 1))

def signedFloat (negative : Bool) (bits : Nat) : Float :=
  Float.ofBits (UInt64.ofNat (if negative then signBit + bits else bits))

def notANumber : Float :=
  Float.ofBits 0x7FF8000000000000

def readExponent (cs : List Char) : Option Int :=
  let (negative, digits) := match cs with
    | '-' :: ds => (true, ds)
    | '+' :: ds => (false, ds)
    | ds => (false, ds)
  if digits.isEmpty || !digits.all Char.isDigit then none
  else some (if negative then -(digitsValue digits : Int) else digitsValue digits)

def readDecimal (cs : List Char) : Option Nat :=
  let whole := cs.takeWhile Char.isDigit
  let (fraction, rest) := match cs.dropWhile Char.isDigit with
    | '.' :: rest => (rest.takeWhile Char.isDigit, rest.dropWhile Char.isDigit)
    | rest => ([], rest)
  if whole.isEmpty && fraction.isEmpty then none
  else
    let bits (e : Int) := scaledBits (digitsValue (whole ++ fraction)) (e - fraction.length)
    match rest with
    | [] => some (bits 0)
    | c :: cs => if c.toLower = 'e' then (readExponent cs).map bits else none

def readUnsigned (negative : Bool) (cs : List Char) : Option Float :=
  let name := String.ofList (cs.map Char.toLower)
  if name = "inf" || name = "infinity" then some (signedFloat negative infinityBits)
  else if name = "nan" then some notANumber
  else (readDecimal cs).map (signedFloat negative)

def readFloatChars : List Char → Except FloatFault Float
  | [] => .error .empty
  | c :: cs =>
    let value := if c = '-' then readUnsigned true cs
      else if c = '+' then readUnsigned false cs
      else readUnsigned false (c :: cs)
    match value with
    | some x => .ok x
    | none => .error .malformed

def readFloat (s : String) : Except FloatFault Float :=
  readFloatChars s.toList

end HttpBridge.Decimal
