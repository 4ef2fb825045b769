import HttpBridge.Decimal.Bits
import HttpBridge.Decimal.Digits

namespace HttpBridge.Decimal

structure Digits where
  digits : List Nat
  point : Int
  deriving DecidableEq, Repr

/-- A position between floats: `rest / scale` is what is still to be written, `below` and `above`
are the distances within which another number still reads back as the same float, and `edge` tells
whether the ends belong to it. -/
structure Interval where
  rest : Nat
  scale : Nat
  below : Nat
  above : Nat
  edge : Bool

namespace Interval

def ofFloat (bits : Nat) : Interval :=
  let exponent := bits / fractionSize % 2048
  let fraction := bits % fractionSize
  let mantissa := if exponent = 0 then fraction else fractionSize + fraction
  let power : Int := ((if exponent = 0 then 1 else exponent : Nat) : Int) - 1075
  let narrow : Bool := fraction = 0 && exponent > 1
  let unit := if narrow then 2 else 1
  let up := 1 <<< power.toNat
  let down := 1 <<< (-power).toNat
  { rest := mantissa * up * 2 * unit
    scale := down * 2 * unit
    below := up
    above := up * unit
    edge := mantissa % 2 == 0 }

def reaches (i : Interval) : Bool :=
  if i.edge then i.rest + i.above ≥ i.scale else i.rest + i.above > i.scale

def shrink (i : Interval) : Interval :=
  { i with rest := i.rest * 10, below := i.below * 10, above := i.above * 10 }

def lower : Nat → Interval → Int → Interval × Int
  | 0, i, point => (i, point)
  | fuel + 1, i, point =>
    if i.reaches then lower fuel { i with scale := i.scale * 10 } (point + 1) else (i, point)

def raise : Nat → Interval → Int → Interval × Int
  | 0, i, point => (i, point)
  | fuel + 1, i, point =>
    if i.shrink.reaches then (i, point) else raise fuel i.shrink (point - 1)

/-- Tells whether the last digit is rounded up. Of two numbers that are equally close, the one with
the larger last digit is taken or the one with the even last digit. -/
def roundsUp (i : Interval) (even : Bool) (digit : Nat) : Bool :=
  2 * i.rest > i.scale || (2 * i.rest == i.scale && (!even || digit % 2 == 1))

def write (even : Bool) : Nat → Interval → List Nat
  | 0, _ => []
  | fuel + 1, i =>
    let j := i.shrink
    let d := j.rest / j.scale
    let next := { j with rest := j.rest % j.scale }
    let isLow : Bool := if next.edge then next.rest ≤ next.below else next.rest < next.below
    if next.reaches && (!isLow || next.roundsUp even d) then [d + 1]
    else if isLow then [d]
    else d :: write even fuel next

end Interval

/-- Gives the digits of a positive float. The bounds hold for every float: no value has more than
325 places before or after its first digit, and 17 digits always tell floats apart. -/
def shortest (even : Bool) (bits : Nat) : Digits :=
  let (i, p) := Interval.lower 330 (Interval.ofFloat bits) 0
  let (i, p) := Interval.raise 330 i p
  ⟨i.write even 20, p⟩

def digitChars (ds : List Nat) : List Char :=
  ds.map Nat.digitChar

def zeros (n : Nat) : List Char :=
  List.replicate n '0'

namespace Digits

def positional (x : Digits) (point : Bool) : List Char :=
  let ds := digitChars x.digits
  let places := x.point.toNat
  if x.point ≤ 0 then '0' :: '.' :: zeros (-x.point).toNat ++ ds
  else if ds.length ≤ places then
    ds ++ zeros (places - ds.length) ++ (if point then ['.', '0'] else [])
  else ds.take places ++ '.' :: ds.drop places

def scientific (x : Digits) (exponent : Int → List Char) : List Char :=
  let e := exponent (x.point - 1)
  match digitChars x.digits with
  | [] => e
  | [d] => d :: 'e' :: e
  | d :: ds => d :: '.' :: ds ++ 'e' :: e

end Digits

def positiveZero : Digits := ⟨[0], 1⟩

def signed (even : Bool) (x : Float) (magnitude : Digits → List Char) : String :=
  let bits := x.toBits.toNat
  let negative := bits ≥ signBit
  let digits := if bits % signBit = 0 then positiveZero else shortest even (bits % signBit)
  String.ofList ((if negative then ['-'] else []) ++ magnitude digits)

def named (x : Float) (finite : String) : String :=
  if x.isNaN then "NaN"
  else if x.isInf then (if x < 0 then "-inf" else "inf")
  else finite

def plainExponent (n : Int) : List Char :=
  if n < 0 then '-' :: Nat.toDigits 10 n.natAbs else Nat.toDigits 10 n.natAbs

def signedExponent (n : Int) : List Char :=
  (if n < 0 then '-' else '+') :: padded 2 n.natAbs

def plain (x : Float) : String :=
  named x (signed false x fun d => d.positional false)

def marked (x : Float) : String :=
  named x <| signed false x fun d =>
    if d = positiveZero || (-4 < d.point && d.point ≤ 16) then d.positional true
    else d.scientific plainExponent

def reported (x : Float) : String :=
  named x <| signed true x fun d =>
    if d = positiveZero || (-5 < d.point && d.point ≤ 16) then d.positional true
    else d.scientific signedExponent

end HttpBridge.Decimal
