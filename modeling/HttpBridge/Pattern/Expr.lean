import HttpBridge.Pattern.CharSet
/-!
Patterns to match with. A match is searched for all places at once: from the places where a part of
a pattern may begin, follow the places where it may end. Sets of places are the bits of a number.
-/

namespace HttpBridge.Pattern

inductive Look
  | start
  | stop
  | lineStart
  | lineStop
  | crlfStart
  | crlfStop
  | boundary (word : CharSet)
  | noBoundary (word : CharSet)
  | wordStart (word : CharSet)
  | wordStop (word : CharSet)
  | wordStartHalf (word : CharSet)
  | wordStopHalf (word : CharSet)

inductive Expr
  | empty
  | set (s : CharSet)
  | look (l : Look)
  | concat (a b : Expr)
  | alternate (a b : Expr)
  | repetition (e : Expr) (least : Nat) (most : Option Nat)

def isIn (word : CharSet) (c : Option Char) : Bool :=
  c.any fun c => word.holds c.toNat

def Look.holds (l : Look) (before after : Option Char) : Bool :=
  match l with
  | start => before.isNone
  | stop => after.isNone
  | lineStart => before.all (· == '\n')
  | lineStop => after.all (· == '\n')
  | crlfStart => before.all fun c => c == '\n' || (c == '\r' && after != some '\n')
  | crlfStop => after.all fun c => c == '\r' || (c == '\n' && before != some '\r')
  | boundary word => isIn word before != isIn word after
  | noBoundary word => isIn word before == isIn word after
  | wordStart word => !isIn word before && isIn word after
  | wordStop word => isIn word before && !isIn word after
  | wordStartHalf word => !isIn word before
  | wordStopHalf word => !isIn word after

def placesWhere (test : Option Char → Option Char → Bool) (before : Option Char) :
    List Char → Nat
  | [] => (test before none).toNat
  | c :: cs => (test before (some c)).toNat + 2 * placesWhere test (some c) cs

def Look.places (l : Look) (cs : List Char) : Nat :=
  placesWhere l.holds none cs

def CharSet.places (s : CharSet) (cs : List Char) : Nat :=
  placesWhere (fun _ after => isIn s after) none cs

def stepExactly (step : Nat → Nat) : Nat → Nat → Nat
  | 0, places => places
  | n + 1, places =>
    let next := step places
    if next = places then places else stepExactly step n next

def stepUpTo (step : Nat → Nat) : Nat → Nat → Nat
  | 0, places => places
  | n + 1, places =>
    let next := places ||| step places
    if next = places then places else stepUpTo step n next

/-- Gives the places where a pattern ends that begins at one of the given places. Since no step goes
back, more steps than there are places make no difference. -/
def Expr.reach (cs : List Char) : Expr → Nat → Nat
  | empty, places => places
  | set s, places => (places &&& s.places cs) <<< 1
  | look l, places => places &&& l.places cs
  | concat a b, places => b.reach cs (a.reach cs places)
  | alternate a b, places => a.reach cs places ||| b.reach cs places
  | repetition e least most, places =>
    let enough := cs.length + 2
    let begun := stepExactly (e.reach cs) (min least enough) places
    let further := match most with
      | none => enough
      | some most => min (most - least) enough
    stepUpTo (e.reach cs) further begun

def Expr.isMatch (e : Expr) (s : String) : Bool :=
  let cs := s.toList
  e.reach cs (1 <<< (cs.length + 1) - 1) != 0

def Expr.weight : Expr → Nat
  | empty => 32
  | set s => 32 + 60 * s.weight
  | look _ => 32
  | concat a b => a.weight + b.weight
  | alternate a b => a.weight + b.weight + 40
  | repetition e least most =>
    match most with
    | none => max least 1 * e.weight + 40
    | some most => least * e.weight + (most - least) * (e.weight + 40)

/-- The automaton of a pattern may take ten mebibytes. -/
def weightLimit : Nat := 10 <<< 20

end HttpBridge.Pattern
