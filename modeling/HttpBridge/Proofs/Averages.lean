import HttpBridge.Proofs.Metrics

namespace HttpBridge

namespace Stats.Tallies

variable {s : Stats} {n : Nat} {ended : List (Bool × Time.Duration)}

theorem foldl_add_le (ds : List Nat) {sum count most : Nat} (h : sum ≤ count * most) :
    ds.foldl (· + ·) sum ≤ (count + ds.length) * ds.foldl Nat.max most := by
  induction ds generalizing sum count most with
  | nil => exact h
  | cons d ds ih =>
    have step : sum + d ≤ (count + 1) * Nat.max most d := calc
      sum + d ≤ count * most + d := Nat.add_le_add_right h d
      _ ≤ count * Nat.max most d + Nat.max most d :=
        Nat.add_le_add (Nat.mul_le_mul_left _ (Nat.le_max_left ..)) (Nat.le_max_right ..)
      _ = (count + 1) * Nat.max most d := (Nat.succ_mul ..).symm
    rw [List.foldl_cons, List.foldl_cons, List.length_cons, Nat.add_comm ds.length,
      ← Nat.add_assoc]
    exact ih step

theorem total_le (h : s.Tallies n ended) : s.total.nanos ≤ ended.length * s.longest.nanos := by
  rw [h.total, h.longest]
  simpa using foldl_add_le (ended.map (·.2.nanos)) (Nat.le_of_eq (Nat.zero_mul 0).symm)

theorem toNat_completed (h : s.Tallies n ended) (fits : ended.length < UInt64.size) :
    s.completed.toNat = ended.length := by
  rw [h.completed, UInt64.toNat_ofNat_of_lt' fits]

theorem average_le (h : s.Tallies n ended) (fits : ended.length < UInt64.size)
    {mean : Time.Duration} (known : s.average = some mean) : mean.nanos ≤ s.longest.nanos := by
  obtain ⟨-, rfl⟩ := average_eq_some.mp known
  refine Nat.div_le_of_le_mul ?_
  rw [h.toNat_completed fits]
  exact h.total_le

end Stats.Tallies

inductive Recording
  | call (id : String)
  | exchange (id : String) (success : Bool) (duration : Time.Duration)

namespace Recording

def begins (id : String) : Recording → Bool
  | .call other => other == id
  | .exchange .. => false

def outcome? (id : String) : Recording → Option (Bool × Time.Duration)
  | .call _ => none
  | .exchange other success duration => if other = id then some (success, duration) else none

def counted? : Recording → Option (String × Time.Duration)
  | .call _ => none
  | .exchange id _ duration => some (id, duration)

end Recording

namespace Metrics

def record (m : Metrics) : Recording → Option Metrics
  | .call id => some (m.call id)
  | .exchange id success duration => m.exchange id success duration

def recordAll (m : Metrics) (recordings : List Recording) : Option Metrics :=
  recordings.foldlM record m

variable {m m' : Metrics} {id : String} {n : Nat} {ended : List (Bool × Time.Duration)}
  {recordings : List Recording}

theorem tallies_record {x : Recording} (h : (m.get id).Tallies n ended)
    (records : m.record x = some m') :
    (m'.get id).Tallies (n + [x].countP (·.begins id)) (ended ++ [x].filterMap (·.outcome? id)) := by
  cases x with
  | call other =>
    obtain rfl := Option.some.inj records
    by_cases same : other = id
    · subst same
      simpa [Recording.begins, Recording.outcome?] using h.call
    · rw [get_of_find? (find?_call_of_ne m (Ne.symm same))]
      simpa [Recording.begins, Recording.outcome?, same] using h
  | exchange other success duration =>
    obtain ⟨s, counts, rfl⟩ := exchange_eq_some.mp records
    by_cases same : other = id
    · subst same
      simpa [Recording.begins, Recording.outcome?] using h.exchange counts
    · rw [get_insert_of_ne m _ (Ne.symm same)]
      simpa [Recording.begins, Recording.outcome?, same] using h

theorem tallies_recordAll (h : (m.get id).Tallies n ended)
    (records : m.recordAll recordings = some m') :
    (m'.get id).Tallies (n + recordings.countP (·.begins id))
      (ended ++ recordings.filterMap (·.outcome? id)) := by
  induction recordings generalizing m n ended with
  | nil =>
    obtain rfl := Option.some.inj records
    simpa using h
  | cons x recordings ih =>
    obtain ⟨next, first, rest⟩ := Option.bind_eq_some_iff.mp records
    have tallies := ih (tallies_record h first) rest
    rwa [Nat.add_assoc, ← List.countP_append, List.append_assoc, ← List.filterMap_append] at tallies

theorem tallies_recorded (records : Metrics.empty.recordAll recordings = some m) (id : String) :
    (m.get id).Tallies (recordings.countP (·.begins id))
      (recordings.filterMap (·.outcome? id)) := by
  have zero : (Metrics.empty.get id).Tallies 0 [] := .zero
  simpa only [Nat.zero_add, List.nil_append] using tallies_recordAll zero records

theorem recordAll_of_room (room : m.Room (recordings.filterMap Recording.counted?)) :
    ∃ m', m.recordAll recordings = some m' := by
  induction recordings generalizing m with
  | nil => exact ⟨m, rfl⟩
  | cons x recordings ih =>
    cases x with
    | call id => exact ih (room.call id)
    | exchange id success duration =>
      obtain ⟨next, first, room⟩ := room.exchange success
      obtain ⟨m', rest⟩ := ih room
      exact ⟨m', Option.bind_eq_some_iff.mpr ⟨next, first, rest⟩⟩

/-- Whatever is recorded, the mean duration of a configuration is the sum of its durations divided by
their number, rounded down to the nanosecond, and no longer than the longest of them; there is none
before the first of its calls came to an end, and none any more when 32 bits do not count those that
did. -/
theorem average_of_recorded (recordings : List Recording) (id : String)
    (room : Metrics.empty.Room (recordings.filterMap Recording.counted?))
    (fits : (recordings.filterMap (·.outcome? id)).length < UInt64.size) :
    ∃ m, Metrics.empty.recordAll recordings = some m ∧
      let s := m.get id
      let durations := (recordings.filterMap (·.outcome? id)).map (·.2.nanos)
      s.completed.toNat = durations.length ∧
      s.total.nanos = durations.foldl (· + ·) 0 ∧ s.longest.nanos = durations.foldl Nat.max 0 ∧
      (s.average = none ↔ s.completed = 0 ∨ UInt32.size ≤ s.completed.toNat) ∧
      ∀ mean, s.average = some mean →
        mean.nanos = s.total.nanos / s.completed.toNat ∧ mean.nanos ≤ s.longest.nanos := by
  obtain ⟨m, records⟩ := recordAll_of_room room
  have tallies := tallies_recorded records id
  refine ⟨m, records, ?_, tallies.total, tallies.longest, Stats.average_eq_none,
    fun mean known => ?_⟩
  · rw [List.length_map]
    exact tallies.toNat_completed fits
  · obtain ⟨-, rfl⟩ := Stats.average_eq_some.mp known
    exact ⟨rfl, tallies.average_le fits known⟩

theorem average_of_recorded_two :
    let recordings : List Recording :=
      [.call "a", .call "a", .exchange "a" true ⟨3, by decide⟩, .exchange "a" false ⟨4, by decide⟩]
    Metrics.empty.Room (recordings.filterMap Recording.counted?) ∧
    ∃ m, Metrics.empty.recordAll recordings = some m ∧
      ((m.get "a").average.map (·.nanos)) = some 3 := by
  intro recordings
  have room : Metrics.empty.Room (recordings.filterMap Recording.counted?) := by
    intro id
    by_cases same : "a" = id
    · subst same
      decide +kernel
    · simp only [recordings, List.filterMap, Recording.counted?, nanosOf, same, if_false]
      exact Nat.zero_le _
  obtain ⟨m, records, completed, total, -, none, known⟩ :=
    average_of_recorded recordings "a" room (by decide)
  refine ⟨room, m, records, ?_⟩
  have two : (m.get "a").completed.toNat = 2 := completed
  have seven : (m.get "a").total.nanos = 7 := total
  cases mean : (m.get "a").average with
  | none =>
    rcases none.mp mean with zero | many
    · rw [zero] at two
      cases two
    · rw [two] at many
      exact absurd many (by decide)
  | some d =>
    rw [Option.map_some, (known d mean).1, two, seven]

/-- With as many calls as 32 bits do not count the mean duration is gone, though it would be no time
at all. -/
theorem average_of_uncounted :
    ∃ m, Metrics.empty.recordAll (List.replicate UInt32.size (.exchange "a" true .zero)) = some m ∧
      (m.get "a").completed.toNat = UInt32.size ∧ (m.get "a").average = none := by
  -- the number stays a name from here on, so that no list of this length is ever written out
  generalize length : UInt32.size = k
  have counted : (List.replicate k (.exchange "a" true .zero)).filterMap Recording.counted? =
      List.replicate k ("a", .zero) := List.filterMap_replicate_of_some rfl
  have ended : (List.replicate k (.exchange "a" true .zero)).filterMap (Recording.outcome? "a") =
      List.replicate k (true, .zero) := List.filterMap_replicate_of_some rfl
  have room : Metrics.empty.Room
      ((List.replicate k (.exchange "a" true .zero)).filterMap Recording.counted?) := by
    intro id
    have instant : ∀ c ∈ List.replicate k ("a", Time.Duration.zero), c.2 = .zero :=
      fun c member => by rw [List.eq_of_mem_replicate member]
    rw [counted, nanosOf_eq_zero instant]
    exact Nat.zero_le _
  obtain ⟨m, records⟩ := recordAll_of_room room
  have tallies := tallies_recorded records "a"
  rw [ended] at tallies
  have fits : (List.replicate k (true, Time.Duration.zero)).length < UInt64.size := by
    rw [List.length_replicate, ← length]
    decide
  have completed : (m.get "a").completed.toNat = k := by
    rw [tallies.toNat_completed fits, List.length_replicate]
  have many : UInt32.size ≤ (m.get "a").completed.toNat := completed ▸ Nat.le_of_eq length
  exact ⟨m, records, completed, Stats.average_eq_none.mpr (.inr many)⟩

end Metrics

end HttpBridge
