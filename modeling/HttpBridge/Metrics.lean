import HttpBridge.Dict
import HttpBridge.Time.Duration

namespace HttpBridge

structure Stats where
  calls : UInt64
  successes : UInt64
  failures : UInt64
  total : Time.Duration
  longest : Time.Duration
  deriving DecidableEq, Inhabited

namespace Stats

def zero : Stats := ⟨0, 0, 0, .zero, .zero⟩

def completed (s : Stats) : UInt64 :=
  s.successes + s.failures

/-- Gives the mean duration, as long as the calls can be counted with 32 bits. -/
def average (s : Stats) : Option Time.Duration :=
  if 0 < s.completed && s.completed.toNat < UInt32.size then some (s.total.divide s.completed.toNat)
  else none

theorem average_eq_some {s : Stats} {mean : Time.Duration} : s.average = some mean ↔
    (0 < s.completed ∧ s.completed.toNat < UInt32.size) ∧
      s.total.divide s.completed.toNat = mean := by
  simp [average]

theorem average_eq_none {s : Stats} :
    s.average = none ↔ s.completed = 0 ∨ UInt32.size ≤ s.completed.toNat := by
  simp only [average, ite_eq_right_iff, Bool.and_eq_true, decide_eq_true_eq]
  rw [UInt64.lt_iff_toNat_lt, ← UInt64.toNat_inj]
  simp
  omega

def call (s : Stats) : Stats :=
  { s with calls := s.calls + 1 }

/-- Counts the end of a call; `none` is a sum of durations that is too long. -/
def exchange (s : Stats) (success : Bool) (duration : Time.Duration) : Option Stats :=
  (s.total.add? duration).map fun total =>
    { s with
      successes := if success then s.successes + 1 else s.successes
      failures := if success then s.failures else s.failures + 1
      total
      longest := s.longest.max duration }

end Stats

structure Metrics where
  stats : Dict Stats
  deriving DecidableEq, Inhabited

namespace Metrics

def empty : Metrics := ⟨∅⟩

def get (m : Metrics) (id : String) : Stats :=
  (m.stats.find? id).getD .zero

def call (m : Metrics) (id : String) : Metrics :=
  ⟨m.stats.insert id (m.get id).call⟩

def exchange (m : Metrics) (id : String) (success : Bool) (duration : Time.Duration) :
    Option Metrics :=
  ((m.get id).exchange success duration).map fun stats => ⟨m.stats.insert id stats⟩

end Metrics

end HttpBridge
