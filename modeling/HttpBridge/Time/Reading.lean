import HttpBridge.Decimal.Integer
import HttpBridge.Text.Blank
import HttpBridge.Time.Moment
/-!
Texts read as moments: date, time and distance to universal time. The reading is generous with
blanks, which may stand before numbers and separators.
-/

namespace HttpBridge.Time

inductive Fault
  | short
  | invalid
  | outOfRange
  | long
  | impossible
  deriving DecidableEq, Repr

def Fault.message : Fault → String
  | .short => "premature end of input"
  | .invalid => "input contains invalid characters"
  | .outOfRange => "input is out of range"
  | .long => "trailing input"
  | .impossible => "no possible date and time matching input"

abbrev Part (α : Type) := List Char → Except Fault (α × List Char)

def digits (atMost : Nat) : Part Nat
  | [] => .error .short
  | cs =>
    let ds := (cs.take atMost).takeWhile Char.isDigit
    if ds.isEmpty then .error .invalid else .ok (Decimal.digitsValue ds, cs.drop ds.length)

def longDigits (cs : List Char) : Except Fault (Nat × List Char) := do
  let (n, rest) ← digits cs.length cs
  if n < 1 <<< 63 then .ok (n, rest) else .error .outOfRange

def within (low high : Nat) (part : Part Nat) : Part Nat := fun cs => do
  let (n, rest) ← part cs
  if low ≤ n && n ≤ high then .ok (n, rest) else .error .outOfRange

def year (cs : List Char) : Except Fault (Int × List Char) := do
  let (n, rest) ← match Text.trimStart cs with
    | '-' :: cs => (longDigits cs).map fun (n, rest) => (-(n : Int), rest)
    | '+' :: cs => (longDigits cs).map fun (n, rest) => ((n : Int), rest)
    | cs => (digits 4 cs).map fun (n, rest) => ((n : Int), rest)
  if (Decimal.Range.signed 32).holds n then .ok (n, rest) else .error .outOfRange

def twoDigits (low high : Nat) : Part Nat := fun cs =>
  within low high (digits 2) (Text.trimStart cs)

def separator (mark : Char) (cs : List Char) : Except Fault (List Char) :=
  match Text.trimStart cs with
  | [] => .error .short
  | c :: rest => if c = mark then .ok rest else .error .invalid

/-- Reads the fraction of a second, if there is one; digits after the ninth do not count. -/
def fraction : Part Nat
  | '.' :: cs => do
    let (n, rest) ← digits 9 cs
    .ok (n * .pow 10 (9 - (cs.length - rest.length)), rest.dropWhile Char.isDigit)
  | cs => .ok (0, cs)

/-- Reads exactly two digits. Where a text ends before two bytes, it ends too early. -/
def digitPair : List Char → Except Fault ((Nat × Nat) × List Char)
  | [] => .error .short
  | [c] => .error (if c.utf8Size < 2 then .short else .invalid)
  | c :: d :: rest =>
    match Decimal.digit? c, Decimal.digit? d with
    | some m, some n => .ok ((m, n), rest)
    | _, _ => .error .invalid

def distance (cs : List Char) : Except Fault (Nat × List Char) := do
  let ((h₁, h₂), cs) ← digitPair cs
  let ((m₁, m₂), cs) ← digitPair (cs.dropWhile fun c => c == ':' || Text.isBlank c)
  if m₁ > 5 then .error .outOfRange else .ok ((h₁ * 10 + h₂) * 60 + m₁ * 10 + m₂, cs)

def isUtc (cs : List Char) : Bool :=
  cs.map Char.toUpper == ['U', 'T', 'C']

def offset (cs : List Char) : Except Fault (Int × List Char) :=
  if isUtc (cs.take 3) then .ok (0, cs.drop 3)
  else match cs with
    | [] => .error .short
    | c :: rest =>
      if c = 'Z' || c = 'z' then .ok (0, rest)
      else if c = '+' then (distance rest).map fun (n, cs) => ((n : Int), cs)
      else if c = '-' || c = '−' then (distance rest).map fun (n, cs) => (-(n : Int), cs)
      else .error .invalid

structure Fields where
  year : Int
  month : Nat
  day : Nat
  hour : Nat
  minute : Nat
  second : Nat
  nanos : Nat
  offset : Int

def fields (cs : List Char) : Except Fault (Fields × List Char) := do
  let (y, cs) ← year cs
  let (month, cs) ← twoDigits 1 12 (← separator '-' cs)
  let (day, cs) ← twoDigits 1 31 (← separator '-' cs)
  let cs ← match cs with
    | [] => .error .short
    | c :: rest => if c = 't' || c = 'T' || c = ' ' then .ok rest else .error .invalid
  let (hour, cs) ← twoDigits 0 23 cs
  let (minute, cs) ← twoDigits 0 59 (← separator ':' cs)
  let (second, cs) ← twoDigits 0 60 (← separator ':' cs)
  let (nanos, cs) ← fraction cs
  let (offset, cs) ← offset (Text.trimStart cs)
  return (⟨y, month, day, hour, minute, second, nanos, offset⟩, cs)

namespace Fields

/-- Gives the time of day; second 60 is the leap second. -/
def clock? (f : Fields) : Option Clock :=
  if h : f.hour < 24 ∧ f.minute < 60 ∧ f.second ≤ 60 ∧ f.nanos < billion then
    some {
      hour := f.hour
      minute := f.minute
      second := if f.second = 60 then 59 else f.second
      nanos := if f.second = 60 then f.nanos + billion else f.nanos
      valid := by
        refine ⟨h.1, h.2.1, ?_, ?_⟩ <;> split <;> omega }
  else none

def moment (f : Fields) : Except Fault Moment :=
  match Date.of? f.year f.month f.day, f.clock? with
  | some date, some clock =>
    if f.offset.natAbs < 1440 then
      match Moment.behind ⟨date, clock⟩ f.offset with
      | some m => .ok m
      | none => .error .impossible
    else .error .outOfRange
  | _, _ => .error .outOfRange

end Fields

def readChars (cs : List Char) : Except Fault Moment := do
  let (f, rest) ← fields cs
  if (Text.trimStart rest).isEmpty then f.moment else .error .long

def read (s : String) : Except Fault Moment :=
  readChars s.toList

end HttpBridge.Time
