namespace HttpBridge.Time

def nanosPerSecond : Nat := 1000000000

def longest : Nat := UInt64.size * nanosPerSecond - 1

structure Duration where
  nanos : Nat
  valid : nanos ≤ longest
  deriving DecidableEq

namespace Duration

def of? (nanos : Nat) : Option Duration :=
  if h : nanos ≤ longest then some ⟨nanos, h⟩ else none

theorem of?_eq_some {nanos : Nat} {d : Duration} : of? nanos = some d ↔ d.nanos = nanos := by
  obtain ⟨n, valid⟩ := d
  simp only [of?, Option.dite_none_right_eq_some, Option.some.injEq, mk.injEq]
  exact ⟨fun ⟨_, same⟩ => same.symm, fun same => ⟨same ▸ valid, same.symm⟩⟩

def zero : Duration := ⟨0, Nat.zero_le _⟩

instance : Inhabited Duration := ⟨zero⟩

def ofMillis (ms : UInt64) : Duration :=
  ⟨ms.toNat * 1000000, by
    have := ms.toNat_lt
    simp only [longest, nanosPerSecond, UInt64.size]
    omega⟩

def add? (a b : Duration) : Option Duration :=
  of? (a.nanos + b.nanos)

theorem add?_eq_some {a b c : Duration} : a.add? b = some c ↔ c.nanos = a.nanos + b.nanos :=
  of?_eq_some

def max (a b : Duration) : Duration :=
  if a.nanos < b.nanos then b else a

@[simp] theorem max_nanos (a b : Duration) : (a.max b).nanos = Nat.max a.nanos b.nanos := by
  grind [max]

def millis (d : Duration) : Nat :=
  d.nanos / 1000000

def divide (d : Duration) (n : Nat) : Duration :=
  ⟨d.nanos / n, Nat.le_trans (Nat.div_le_self ..) d.valid⟩

end Duration

end HttpBridge.Time
