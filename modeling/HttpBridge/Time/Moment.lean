import HttpBridge.Decimal.Digits
import HttpBridge.Time.Date

namespace HttpBridge.Time

open Decimal (padded)

def billion : Nat := 1000000000

structure Clock where
  hour : Nat
  minute : Nat
  second : Nat
  nanos : Nat
  valid : hour < 24 ∧ minute < 60 ∧ second < 60 ∧ nanos < 2 * billion
  deriving DecidableEq

structure Moment where
  date : Date
  clock : Clock
  deriving DecidableEq

namespace Clock

def secondOfDay (c : Clock) : Nat :=
  (c.hour * 60 + c.minute) * 60 + c.second

def withMinute (c : Clock) (minute : Nat) : Clock :=
  { c with
    hour := minute / 60 % 24
    minute := minute % 60
    valid := ⟨Nat.mod_lt _ (by decide), Nat.mod_lt _ (by decide), c.valid.2.2⟩ }

/-- Says that a leap second is at the end of its minute, if there is one. -/
def Regular (c : Clock) : Prop :=
  c.nanos < billion ∨ c.second = 59

instance (c : Clock) : Decidable c.Regular :=
  inferInstanceAs (Decidable (_ ∨ _))

end Clock

def yearText (year : Int) : List Char :=
  if 0 ≤ year && year ≤ 9999 then padded 4 year.toNat
  else (if year < 0 then '-' else '+') :: padded 4 year.natAbs

def fractionText (nanos : Nat) : List Char :=
  if nanos = 0 then []
  else if nanos % 1000000 = 0 then '.' :: padded 3 (nanos / 1000000)
  else if nanos % 1000 = 0 then '.' :: padded 6 (nanos / 1000)
  else '.' :: padded 9 nanos

namespace Moment

def Regular (m : Moment) : Prop :=
  m.clock.Regular

instance (m : Moment) : Decidable m.Regular :=
  inferInstanceAs (Decidable m.clock.Regular)

def text (m : Moment) : List Char :=
  yearText m.date.year ++ '-' :: padded 2 m.date.month ++ '-' :: padded 2 m.date.day
    ++ 'T' :: padded 2 m.clock.hour ++ ':' :: padded 2 m.clock.minute
    ++ ':' :: padded 2 (m.clock.second + m.clock.nanos / billion)
    ++ fractionText (m.clock.nanos % billion) ++ ['Z']

def render (m : Moment) : String :=
  String.ofList m.text

def unixSecond (m : Moment) : Int :=
  m.date.unixDay * 86400 + m.clock.secondOfDay

def unixMillis (m : Moment) : Int :=
  m.unixSecond * 1000 + m.clock.nanos / 1000000

def behind (m : Moment) (minutes : Int) : Option Moment :=
  let minute := (m.clock.hour * 60 + m.clock.minute : Nat) - minutes
  if minute < 0 then
    m.date.previous?.map fun date => ⟨date, m.clock.withMinute (minute + 1440).toNat⟩
  else if minute < 1440 then some ⟨m.date, m.clock.withMinute minute.toNat⟩
  else m.date.next?.map fun date => ⟨date, m.clock.withMinute (minute - 1440).toNat⟩

def epoch : Moment :=
  ⟨⟨1970, 1, 1, by decide⟩, ⟨0, 0, 0, 0, by decide⟩⟩

instance : Inhabited Moment := ⟨epoch⟩

end Moment

end HttpBridge.Time
