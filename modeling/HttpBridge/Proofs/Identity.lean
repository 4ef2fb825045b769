import HttpBridge.Proofs.Fifo
import HttpBridge.Proofs.Queue
/-!
Queues that are found by name and then held. A name stands for one queue from one shutdown to the
next, and who holds a queue keeps it beyond that; queues that are not the same share nothing.
-/

namespace HttpBridge

namespace ExchangeQueue

theorem run_concat (q : ExchangeQueue) (calls : List Call) (call : Call) :
    q.run (calls ++ [call]) =
      let (events, q) := q.run calls
      (events ++ [(call, (q.answer call).1)], (q.answer call).2) := by
  induction calls generalizing q with
  | nil => rfl
  | cons first calls ih => simp only [List.cons_append, run, ih]

end ExchangeQueue

namespace QueueRegistry

def use (r : QueueRegistry) (handle : QueueHandle) :
    ExchangeQueue.Call → ExchangeQueue.Reply × QueueRegistry
  | .enqueue record =>
    match (r.enqueue handle record).value with
    | .ok r => (.taken, r)
    | .error f => (.refused f, r)
  | .poll most =>
    let (records, r) := r.poll handle most
    (.polled records, r)

theorem use_eq {r : QueueRegistry} {handle : QueueHandle} {q : ExchangeQueue}
    (there : r.get? handle = some q) (call : ExchangeQueue.Call) :
    r.use handle call = ((q.answer call).1, r.set handle (q.answer call).2) := by
  cases call with
  | enqueue record =>
    simp only [use, enqueue, there, ExchangeQueue.answer]
    cases q.enqueue record with
    | ok q' => rfl
    | error f => simp [set_get? there]
  | poll most =>
    simp only [use, poll, there]
    rfl

theorem shutdown_eq (r : QueueRegistry) : r.shutdown.value = { r with names := ∅ } := by
  unfold shutdown
  split
  · rfl
  · rfl

end QueueRegistry

namespace Session

inductive Call
  | find (name : String)
  | findDefault
  | shutdown
  | use (handle : QueueHandle) (call : ExchangeQueue.Call)

inductive Event
  | found (name : String) (handle : QueueHandle)
  | forgot
  | used (handle : QueueHandle) (call : ExchangeQueue.Call) (reply : ExchangeQueue.Reply)

def Event.forgets : Event → Bool
  | forgot => true
  | _ => false

def Event.gives (handle : QueueHandle) : Event → Bool
  | found _ other => other == handle
  | _ => false

def Event.use? (handle : QueueHandle) : Event → Option (ExchangeQueue.Call × ExchangeQueue.Reply)
  | used other call reply => if other = handle then some (call, reply) else none
  | _ => none

def uses (handle : QueueHandle) (events : List Event) :
    List (ExchangeQueue.Call × ExchangeQueue.Reply) :=
  events.filterMap (·.use? handle)

end Session

structure Session where
  registry : QueueRegistry
  events : List Session.Event

namespace Session

def new (capacity : UInt64) : Session :=
  ⟨.new capacity, []⟩

def noteFound (s : Session) (name : String) (given : QueueHandle × QueueRegistry) : Session :=
  ⟨given.2, s.events ++ [.found name given.1]⟩

def answer (s : Session) : Call → Session
  | .find name => s.noteFound name (s.registry.queue name).value
  | .findDefault => s.noteFound defaultQueueName s.registry.defaultQueue.value
  | .shutdown => ⟨s.registry.shutdown.value, s.events ++ [.forgot]⟩
  | .use handle call =>
    if s.events.any (·.gives handle) then
      let (reply, registry) := s.registry.use handle call
      ⟨registry, s.events ++ [.used handle call reply]⟩
    else s

def run (s : Session) (calls : List Call) : Session :=
  calls.foldl answer s

def era (events : List Event) : Nat :=
  events.countP (·.forgets)

/-- Says that a name was found to stand for a queue, after some number of shutdowns. -/
def Found (events : List Event) (n : Nat) (name : String) (handle : QueueHandle) : Prop :=
  ∃ before after, events = before ++ .found name handle :: after ∧ era before = n

def Requested (events : List Event) (name : String) : Prop :=
  ∃ before handle after, events = before ++ .found name handle :: after ∧ .forgot ∉ after

section Found

variable {events : List Event} {n : Nat} {name : String} {handle : QueueHandle}

theorem era_append (before after : List Event) : era (before ++ after) = era before + era after :=
  List.countP_append

theorem era_eq_zero : era events = 0 ↔ .forgot ∉ events := by
  rw [era, List.countP_eq_zero]
  constructor
  · exact fun none member => none _ member rfl
  · rintro none (_ | _ | _) member
    · nofun
    · exact absurd member none
    · nofun

theorem not_found_nil : ¬ Found [] n name handle := by
  rintro ⟨before, after, split, -⟩
  exact List.append_ne_nil_of_right_ne_nil before (List.cons_ne_nil _ after) split.symm

theorem found_concat (e : Event) : Found (events ++ [e]) n name handle ↔
    Found events n name handle ∨ e = .found name handle ∧ era events = n := by
  constructor
  · rintro ⟨before, after, split, counted⟩
    rcases List.eq_nil_or_concat after with rfl | ⟨after, last, rfl⟩
    · obtain ⟨rfl, same⟩ := List.append_inj' split rfl
      exact .inr ⟨List.singleton_inj.mp same, counted⟩
    · rw [List.concat_eq_append, ← List.cons_append, ← List.append_assoc] at split
      obtain ⟨rfl, -⟩ := List.append_inj' split rfl
      exact .inl ⟨before, after, rfl, counted⟩
  · rintro (⟨before, after, rfl, counted⟩ | ⟨rfl, counted⟩)
    · exact ⟨before, after ++ [e], by simp, counted⟩
    · exact ⟨events, [], rfl, counted⟩

theorem Found.le_era (h : Found events n name handle) : n ≤ era events := by
  obtain ⟨before, after, rfl, rfl⟩ := h
  rw [era_append]
  exact Nat.le_add_right _ _

theorem era_between (before after : List Event) :
    era before = era (before ++ .found name handle :: after) ↔ .forgot ∉ after := by
  rw [era_append, ← era_eq_zero]
  exact Nat.left_eq_add

theorem found_now : Found events (era events) name handle ↔
    ∃ before after, events = before ++ .found name handle :: after ∧ .forgot ∉ after := by
  constructor
  · rintro ⟨before, after, rfl, now⟩
    exact ⟨before, after, rfl, (era_between before after).mp now⟩
  · rintro ⟨before, after, rfl, none⟩
    exact ⟨before, after, rfl, (era_between before after).mpr none⟩

theorem found_of_mem (h : .found name handle ∈ events) : ∃ n, Found events n name handle := by
  obtain ⟨before, after, rfl⟩ := List.append_of_mem h
  exact ⟨_, before, after, rfl, rfl⟩

theorem found_of_gives (h : events.any (·.gives handle)) :
    ∃ n name, Found events n name handle := by
  obtain ⟨e, member, gives⟩ := List.any_eq_true.mp h
  cases e with
  | found name other =>
    obtain rfl : other = handle := beq_iff_eq.mp gives
    obtain ⟨n, found⟩ := found_of_mem member
    exact ⟨n, name, found⟩
  | forgot => cases gives
  | used other call reply => cases gives

@[simp] theorem era_found : era (events ++ [.found name handle]) = era events :=
  era_append ..

@[simp] theorem era_forgot : era (events ++ [.forgot]) = era events + 1 :=
  era_append ..

@[simp] theorem era_used {call : ExchangeQueue.Call} {reply : ExchangeQueue.Reply} :
    era (events ++ [.used handle call reply]) = era events :=
  era_append ..

@[simp] theorem found_forgot :
    Found (events ++ [.forgot]) n name handle ↔ Found events n name handle := by
  simp [found_concat]

@[simp] theorem found_used {other : QueueHandle} {call : ExchangeQueue.Call}
    {reply : ExchangeQueue.Reply} :
    Found (events ++ [.used other call reply]) n name handle ↔ Found events n name handle := by
  simp [found_concat]

@[simp] theorem uses_found {other : QueueHandle} :
    uses handle (events ++ [.found name other]) = uses handle events := by
  simp [uses, Event.use?]

@[simp] theorem uses_forgot : uses handle (events ++ [.forgot]) = uses handle events := by
  simp [uses, Event.use?]

theorem uses_used (other : QueueHandle) (call : ExchangeQueue.Call) (reply : ExchangeQueue.Reply) :
    uses handle (events ++ [.used other call reply]) =
      uses handle events ++ if other = handle then [(call, reply)] else [] := by
  by_cases same : other = handle
  · simp [uses, Event.use?, same]
  · simp [uses, Event.use?, same]

end Found

structure Consistent (capacity : UInt64) (s : Session) : Prop where
  holds : s.registry.capacity = capacity
  same : ∀ {n n' name name' handle handle'}, Found s.events n name handle →
    Found s.events n' name' handle' → (handle = handle' ↔ n = n' ∧ name = name')
  known : ∀ name handle, s.registry.names.find? name = some handle ↔
    Found s.events (era s.events) name handle
  content : ∀ {n name handle}, Found s.events n name handle → ∃ q,
    s.registry.get? handle = some q ∧
      (ExchangeQueue.new name capacity).run ((uses handle s.events).map (·.1)) =
        (uses handle s.events, q)
  unused : ∀ handle, s.registry.queues.length ≤ handle → uses handle s.events = []

section Steps

variable {capacity : UInt64} {s : Session}

theorem new_consistent (capacity : UInt64) : (new capacity).Consistent capacity where
  holds := rfl
  same h := absurd h not_found_nil
  known _ _ := ⟨nofun, fun h => absurd h not_found_nil⟩
  content h := absurd h not_found_nil
  unused _ _ := rfl

variable (h : s.Consistent capacity)

include h

theorem Consistent.inside {n : Nat} {name : String} {handle : QueueHandle}
    (found : Found s.events n name handle) : handle < s.registry.queues.length := by
  obtain ⟨_, there, -⟩ := h.content found
  exact (List.getElem?_eq_some_iff.mp there).1

theorem Consistent.again {name : String} {handle : QueueHandle}
    (known : s.registry.names.find? name = some handle) :
    Consistent capacity ⟨s.registry, s.events ++ [.found name handle]⟩ := by
  have before := (h.known name handle).mp known
  -- it adds nothing to what was found: the same was found before, in the same era
  have found {n name' handle'} : Found (s.events ++ [.found name handle]) n name' handle' ↔
      Found s.events n name' handle' := by
    rw [found_concat]
    constructor
    · rintro (old | ⟨⟨⟩, rfl⟩)
      · exact old
      · exact before
    · exact .inl
  exact {
    holds := h.holds
    same := fun one other => h.same (found.mp one) (found.mp other)
    known := by simpa only [found, era_found] using h.known
    content := by
      intro n name' handle' there
      rw [uses_found]
      exact h.content (found.mp there)
    unused := by simpa only [uses_found] using h.unused }

theorem Consistent.first {name : String} (unknown : s.registry.names.find? name = none) :
    Consistent capacity ⟨⟨s.registry.capacity, s.registry.queues ++ [.new name s.registry.capacity],
      s.registry.names.insert name s.registry.queues.length⟩,
      s.events ++ [.found name s.registry.queues.length]⟩ := by
  have absent (handle) : ¬ Found s.events (era s.events) name handle :=
    fun found => nomatch unknown.symm.trans ((h.known name handle).mpr found)
  exact {
    holds := h.holds
    same := by
      -- the new handle is past the end of the list, so no older one is the same
      intro n n' name' name'' handle handle' found found'
      rcases (found_concat _).mp found with old | ⟨⟨⟩, rfl⟩
      · rcases (found_concat _).mp found' with old' | ⟨⟨⟩, rfl⟩
        · exact h.same old old'
        · constructor
          · exact fun same => absurd (h.inside old) (same ▸ Nat.lt_irrefl _)
          · rintro ⟨rfl, rfl⟩
            exact absurd old (absent handle)
      · rcases (found_concat _).mp found' with old' | ⟨⟨⟩, rfl⟩
        · constructor
          · exact fun same => absurd (h.inside old') (same ▸ Nat.lt_irrefl _)
          · rintro ⟨rfl, rfl⟩
            exact absurd old' (absent handle')
        · exact ⟨fun _ => ⟨rfl, rfl⟩, fun _ => rfl⟩
    known := by
      intro name' handle
      rw [found_concat, era_found]
      by_cases same : name' = name
      · subst same
        rw [Dict.find?_insert]
        simp [absent]
      · rw [Dict.find?_insert_of_ne _ _ same, h.known]
        simp [Ne.symm same]
    content := by
      intro n name' handle found
      rw [uses_found]
      rcases (found_concat _).mp found with old | ⟨⟨⟩, rfl⟩
      · obtain ⟨q, there, runs⟩ := h.content old
        exact ⟨q, (List.getElem?_append_left (h.inside old)).trans there, runs⟩
      · rw [h.unused _ (Nat.le_refl _), h.holds]
        exact ⟨_, List.getElem?_concat_length, rfl⟩
    unused := by
      intro handle outside
      rw [uses_found]
      rw [List.length_append] at outside
      exact h.unused handle (Nat.le_trans (Nat.le_add_right _ _) outside) }

theorem Consistent.find (name : String) :
    (s.noteFound name (s.registry.queue name).value).Consistent capacity := by
  cases known : s.registry.names.find? name with
  | some handle =>
    rw [QueueRegistry.queue_known known]
    exact h.again known
  | none =>
    rw [QueueRegistry.queue_unknown known]
    exact h.first known

theorem Consistent.shutdown :
    Consistent capacity ⟨s.registry.shutdown.value, s.events ++ [.forgot]⟩ := by
  rw [QueueRegistry.shutdown_eq]
  exact {
    holds := h.holds
    same := fun one other => h.same (found_forgot.mp one) (found_forgot.mp other)
    known := by
      intro name handle
      rw [era_forgot, found_forgot]
      exact ⟨nofun, fun found => absurd found.le_era (Nat.not_succ_le_self _)⟩
    content := by
      intro n name handle there
      rw [uses_forgot]
      exact h.content (found_forgot.mp there)
    unused := by simpa only [uses_forgot] using h.unused }

theorem Consistent.use {handle : QueueHandle} (held : s.events.any (·.gives handle))
    (call : ExchangeQueue.Call) :
    Consistent capacity ⟨(s.registry.use handle call).2,
      s.events ++ [.used handle call (s.registry.use handle call).1]⟩ := by
  obtain ⟨n, name, found⟩ := found_of_gives held
  obtain ⟨q, there, -⟩ := h.content found
  rw [QueueRegistry.use_eq there]
  exact {
    holds := h.holds
    same := fun one other => h.same (found_used.mp one) (found_used.mp other)
    known := by
      intro name handle
      rw [era_used, found_used]
      exact h.known name handle
    content := by
      intro n name handle' found
      rw [found_used] at found
      obtain ⟨q', there', runs⟩ := h.content found
      rw [uses_used]
      -- the call is one more of this queue, and none of any other
      by_cases same : handle = handle'
      · subst same
        obtain rfl := Option.some.inj (there.symm.trans there')
        refine ⟨_, QueueRegistry.get?_set there, ?_⟩
        rw [if_pos rfl, List.map_append, List.map_singleton, ExchangeQueue.run_concat, runs]
      · rw [if_neg same, List.append_nil]
        exact ⟨q', (QueueRegistry.get?_set_of_ne (Ne.symm same) _).trans there', runs⟩
    unused := by
      intro handle' outside
      rw [QueueRegistry.set, List.length_set] at outside
      have ne : handle ≠ handle' :=
        fun same => absurd (h.inside found) (same ▸ Nat.not_lt.mpr outside)
      rw [uses_used, if_neg ne, h.unused handle' outside]
      rfl }

theorem Consistent.answer (call : Call) : (s.answer call).Consistent capacity := by
  cases call with
  | find name => exact h.find name
  | findDefault => exact h.find defaultQueueName
  | shutdown => exact h.shutdown
  | use handle call =>
    simp only [Session.answer]
    split
    · rename_i held
      exact h.use held call
    · exact h

theorem Consistent.run (calls : List Call) : (s.run calls).Consistent capacity := by
  induction calls generalizing s with
  | nil => exact h
  | cons call calls ih => exact ih (h.answer call)

omit h

structure Faithful (capacity : UInt64) (s : Session) : Prop where
  holds : s.registry.capacity = capacity
  /-- Two handles are of one queue just if they were found under one name, with no shutdown between
  them. -/
  same : ∀ before between after name name' handle handle',
    s.events = before ++ .found name handle :: (between ++ .found name' handle' :: after) →
      (handle = handle' ↔ name = name' ∧ .forgot ∉ between)
  /-- A queue is what its own calls make of an empty one, whatever else happened. -/
  content : ∀ name handle, .found name handle ∈ s.events → ∃ q,
    s.registry.get? handle = some q ∧ q.Bounded name capacity ∧
      (ExchangeQueue.new name capacity).run ((uses handle s.events).map (·.1)) =
        (uses handle s.events, q)
  contains : ∀ name, s.registry.contains name ↔ Requested s.events name
  listed : ∀ name, name ∈ s.registry.listNames ↔ Requested s.events name
  distinct : s.registry.listNames.Nodup
  apart : ∀ handle call other, other ≠ handle →
    (s.answer (.use handle call)).registry.get? other = s.registry.get? other
  kept : ∀ handle, (s.answer .shutdown).registry.get? handle = s.registry.get? handle
  /-- A name that was not asked for since the last shutdown is given an empty queue that nobody had
  before. -/
  anew : ∀ name, ¬ Requested s.events name →
    let (handle, registry) := (s.registry.queue name).value
    registry.get? handle = some (.new name capacity) ∧ ∀ name', .found name' handle ∉ s.events

theorem Consistent.requested (h : s.Consistent capacity) {name : String} :
    (s.registry.names.find? name).isSome ↔ Requested s.events name := by
  rw [Option.isSome_iff_exists]
  constructor
  · rintro ⟨handle, known⟩
    obtain ⟨before, after, split, none⟩ := found_now.mp ((h.known name handle).mp known)
    exact ⟨before, handle, after, split, none⟩
  · rintro ⟨before, handle, after, split, none⟩
    exact ⟨handle, (h.known name handle).mpr (found_now.mpr ⟨before, after, split, none⟩)⟩

theorem Consistent.faithful (h : s.Consistent capacity) : s.Faithful capacity where
  holds := h.holds
  same before between after name name' handle handle' split := by
    have first : Found s.events (era before) name handle := ⟨before, _, split, rfl⟩
    have second : Found s.events (era (before ++ .found name handle :: between)) name' handle' :=
      ⟨_, after, by rw [split, List.append_assoc, List.cons_append], rfl⟩
    rw [h.same first second, era_between, and_comm]
  content name handle found := by
    obtain ⟨n, found⟩ := found_of_mem found
    obtain ⟨q, there, runs⟩ := h.content found
    have bounded := ExchangeQueue.run_bounded ⟨rfl, rfl, Nat.zero_le _⟩
      ((uses handle s.events).map (·.1)) (q := .new name capacity)
    rw [runs] at bounded
    exact ⟨q, there, bounded, runs⟩
  contains name := h.requested
  listed name := Dict.mem_keys.trans h.requested
  distinct := Dict.nodup_keys _
  apart handle call other ne := by
    simp only [Session.answer]
    split
    · rename_i held
      obtain ⟨n, name, found⟩ := found_of_gives held
      obtain ⟨q, there, -⟩ := h.content found
      rw [QueueRegistry.use_eq there]
      exact QueueRegistry.get?_set_of_ne ne _
    · rfl
  kept handle := by
    simp only [Session.answer, QueueRegistry.shutdown_eq]
    rfl
  anew name none := by
    rw [← h.requested, Option.not_isSome_iff_eq_none] at none
    rw [QueueRegistry.queue_unknown none, h.holds]
    refine ⟨List.getElem?_concat_length, fun name' found => ?_⟩
    obtain ⟨n, found⟩ := found_of_mem found
    exact absurd (h.inside found) (Nat.lt_irrefl _)

/-- However names are looked up, queues are used and all names are forgotten, a name stands for one
queue from one shutdown to the next, and a queue that is held stays what it is. -/
theorem run_faithful (capacity : UInt64) (calls : List Call) :
    ((new capacity).run calls).Faithful capacity :=
  ((new_consistent capacity).run calls).faithful

example : ((new 1).run [.find "a", .findDefault, .shutdown, .find "a"]).events =
    [.found "a" 0, .found "default" 1, .forgot, .found "a" 2] := by
  rfl

end Steps

end Session

end HttpBridge
