import HttpBridge.Decimal.Float
import HttpBridge.Json.Fault
/-!
Numbers in JSON texts. A number without point and exponent that fits into 64 bits is an integer;
every other one is a float. A float is made from the digits that fit into 64 bits and one power of
ten, so it may miss the nearest float by a unit.
-/

namespace HttpBridge.Json

open Decimal

structure Exponent where
  negative : Bool
  digits : List Char

structure Numeral where
  negative : Bool
  whole : List Char
  fraction : List Char
  exponent : Option Exponent

structure Significand where
  value : Nat
  power : Int
  full : Bool

namespace Significand

def fits (s : Significand) (c : Char) : Bool :=
  !s.full && s.value * 10 + digitsValue [c] < UInt64.size

def addWhole (s : Significand) (c : Char) : Significand :=
  if s.fits c then { s with value := s.value * 10 + digitsValue [c] }
  else { s with power := s.power + 1, full := true }

def addFraction (s : Significand) (c : Char) : Significand :=
  if s.fits c then { s with value := s.value * 10 + digitsValue [c], power := s.power - 1 }
  else { s with full := true }

end Significand

def natFloat (n : Nat) : Float :=
  signedFloat false (nearestBits n 1)

def divideByPower : Nat → Float → Nat → Float
  | 0, x, _ => x
  | fuel + 1, x, power =>
    if power ≤ 308 then x / natFloat (.pow 10 power)
    else if x == 0 then x
    else divideByPower fuel (x / natFloat (.pow 10 308)) (power - 308)

def scale (value : Nat) : Int → Option Float
  | .ofNat power =>
    if power ≤ 308 then
      let x := natFloat value * natFloat (.pow 10 power)
      if x.isInf then none else some x
    else if value = 0 then some 0 else none
  | .negSucc power => some (divideByPower 4 (natFloat value) (power + 1))

namespace Numeral

def significand (n : Numeral) : Significand :=
  let s := n.whole.foldl Significand.addWhole ⟨0, 0, false⟩
  n.fraction.foldl Significand.addFraction { s with full := false }

/-- Gives the magnitude of a number that is not an integer. An exponent beyond 32 bits stands for
zero or for a number out of range. -/
def magnitude (n : Numeral) : Option Float :=
  let s := n.significand
  match n.exponent with
  | none => scale s.value s.power
  | some e =>
    let k := digitsValue e.digits
    if k < 1 <<< 31 then scale s.value (if e.negative then s.power - k else s.power + k)
    else if e.negative || s.value = 0 then some 0 else none

def scalar (n : Numeral) : Except Flaw Scalar :=
  let value := digitsValue n.whole
  if n.fraction.isEmpty && n.exponent.isNone && !n.negative && value < UInt64.size then
    .ok (.integer value)
  else if n.fraction.isEmpty && n.exponent.isNone && n.negative
      && 0 < value && value ≤ 1 <<< 63 then
    .ok (.integer (-value))
  else match n.magnitude with
    | some x => .ok (.float (if n.negative then -x else x))
    | none => .error .numberTooLarge

end Numeral

end HttpBridge.Json
