import HttpBridge.Metrics

namespace HttpBridge

/-- Says that counts, which have 64 bits, are those of some calls, of which these came to an end:
whether each was a success, and how long it took. -/
structure Stats.Tallies (s : Stats) (calls : Nat) (ended : List (Bool × Time.Duration)) : Prop where
  calls : s.calls = .ofNat calls
  successes : s.successes = .ofNat (ended.countP (·.1))
  failures : s.failures = .ofNat (ended.countP (!·.1))
  total : s.total.nanos = (ended.map (·.2.nanos)).foldl (· + ·) 0
  longest : s.longest.nanos = (ended.map (·.2.nanos)).foldl Nat.max 0

namespace Stats.Tallies

variable {s : Stats} {n : Nat} {ended : List (Bool × Time.Duration)}

theorem zero : Stats.zero.Tallies 0 [] :=
  ⟨rfl, rfl, rfl, rfl, rfl⟩

theorem call (h : s.Tallies n ended) : s.call.Tallies (n + 1) ended :=
  { h with calls := by rw [Stats.call, h.calls, UInt64.ofNat_add]; rfl }

theorem exchange (h : s.Tallies n ended) {success : Bool} {d : Time.Duration} {s' : Stats}
    (counts : s.exchange success d = some s') : s'.Tallies n (ended ++ [(success, d)]) := by
  obtain ⟨total, sum, rfl⟩ := Option.map_eq_some_iff.mp counts
  constructor
  case calls => exact h.calls
  case successes => cases success <;> simp [h.successes, UInt64.ofNat_add]
  case failures => cases success <;> simp [h.failures, UInt64.ofNat_add]
  case total => simp [Time.Duration.add?_eq_some.mp sum, h.total]
  case longest => simp [h.longest]

theorem completed (h : s.Tallies n ended) : s.completed = .ofNat ended.length := by
  have parts : ended.length = ended.countP (·.1) + ended.countP (!·.1) := by
    simpa using List.length_eq_countP_add_countP (·.1) (l := ended)
  rw [Stats.completed, h.successes, h.failures, parts, UInt64.ofNat_add]

theorem toNat (h : s.Tallies n ended) (made : ended.length ≤ n) (fits : n < UInt64.size) :
    s.calls.toNat = n ∧ s.successes.toNat = ended.countP (·.1) ∧
      s.failures.toNat = ended.countP (!·.1) ∧ s.completed.toNat = ended.length := by
  have successes : ended.countP (·.1) ≤ ended.length := List.countP_le_length
  have failures : ended.countP (!·.1) ≤ ended.length := List.countP_le_length
  rw [h.calls, h.successes, h.failures, h.completed]
  refine ⟨?_, ?_, ?_, ?_⟩ <;> exact UInt64.toNat_ofNat_of_lt' (by omega)

end Stats.Tallies

namespace Metrics

variable {m : Metrics} {id other : String}

@[simp] theorem get_insert (m : Metrics) (id : String) (s : Stats) :
    get ⟨m.stats.insert id s⟩ id = s := by
  simp [get, Dict.find?_insert]

theorem get_insert_of_ne (m : Metrics) (s : Stats) (ne : other ≠ id) :
    get ⟨m.stats.insert id s⟩ other = m.get other := by
  simp [get, Dict.find?_insert_of_ne m.stats s ne]

theorem get_of_find? {m' : Metrics} (same : m'.stats.find? id = m.stats.find? id) :
    m'.get id = m.get id := by
  rw [get, get, same]

@[simp] theorem get_call (m : Metrics) (id : String) : (m.call id).get id = (m.get id).call :=
  get_insert m id _

theorem find?_call_of_ne (m : Metrics) (ne : other ≠ id) :
    (m.call id).stats.find? other = m.stats.find? other :=
  Dict.find?_insert_of_ne _ _ ne

theorem exchange_eq_some {success : Bool} {d : Time.Duration} {m' : Metrics} :
    m.exchange id success d = some m' ↔
      ∃ s, (m.get id).exchange success d = some s ∧ ⟨m.stats.insert id s⟩ = m' :=
  Option.map_eq_some_iff

@[simp] theorem total_call (m : Metrics) (id other : String) :
    ((m.call id).get other).total = (m.get other).total := by
  by_cases same : other = id
  · simp [call, same, Stats.call]
  · simp [call, get_insert_of_ne m _ same]

def nanosOf (id : String) : List (String × Time.Duration) → Nat
  | [] => 0
  | c :: counts => (if c.1 = id then c.2.nanos else 0) + nanosOf id counts

/-- Says that no sum gets too long when durations are counted, each for its configuration. -/
def Room (m : Metrics) (counts : List (String × Time.Duration)) : Prop :=
  ∀ id, (m.get id).total.nanos + nanosOf id counts ≤ Time.longest

variable {counts : List (String × Time.Duration)}

theorem nanosOf_eq_zero (instant : ∀ c ∈ counts, c.2 = .zero) (id : String) :
    nanosOf id counts = 0 := by
  induction counts with
  | nil => rfl
  | cons c counts ih =>
    obtain ⟨first, instant⟩ := List.forall_mem_cons.mp instant
    rw [nanosOf, first, ih instant]
    simp [Time.Duration.zero]

theorem Room.call (h : m.Room counts) (id : String) : (m.call id).Room counts := by
  intro other
  rw [total_call]
  exact h other

theorem Room.exchange {d : Time.Duration} (h : m.Room ((id, d) :: counts)) (success : Bool) :
    ∃ m', m.exchange id success d = some m' ∧ m'.Room counts := by
  have fits := h id
  simp only [nanosOf, if_true] at fits
  have sum : (m.get id).total.add? d = some ⟨(m.get id).total.nanos + d.nanos, by omega⟩ :=
    dif_pos (by omega)
  simp only [Metrics.exchange, Stats.exchange, sum, Option.map_some]
  refine ⟨_, rfl, fun other => ?_⟩
  by_cases same : other = id
  · rw [same, get_insert, Nat.add_assoc]
    exact fits
  · rw [get_insert_of_ne m _ same]
    simpa [nanosOf, Ne.symm same] using h other

end Metrics

end HttpBridge
