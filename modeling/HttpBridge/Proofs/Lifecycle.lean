import HttpBridge.Proofs.Refusal
/-!
Tasks and connectors through any calls. Each of them is as its last start left it, unless a stop came
after that; a start that is refused is as if it had not been tried.
-/

namespace HttpBridge

variable {σ : Type} {w : World σ} {k : Kind} {number : Nat} {files : Files} {s : Settings}

namespace Kind

def Leaves (w : World σ) (k : Kind) (files : Files) (s : Settings) (t : k.State σ) : Prop :=
  ∃ made queues, k.make w files s = .ok made ∧ (made queues).1 = t

theorem Leaves.sinkTask {t : SinkTask σ} (h : sinkTask.Leaves w files s t) :
    ∃ sink, t = ⟨some sink⟩ := by
  obtain ⟨_, queues, make, rfl⟩ := h
  obtain ⟨read, -, rfl⟩ := map_eq_ok.mp make
  exact SinkTask.made_started w read.1 read.2 queues

theorem Leaves.sourceTask {t : SourceTask} (h : sourceTask.Leaves w files s t) :
    ∃ source, t = ⟨some source⟩ := by
  obtain ⟨_, queues, make, rfl⟩ := h
  obtain ⟨settings, -, rfl⟩ := map_eq_ok.mp make
  exact ⟨_, rfl⟩

theorem Leaves.sinkConnector {c : SinkConnector} (h : sinkConnector.Leaves w files s c) :
    c = ⟨some s⟩ := by
  obtain ⟨_, queues, make, rfl⟩ := h
  obtain ⟨_, -, rfl⟩ := map_eq_ok.mp make
  rfl

theorem Leaves.sourceConnector {c : SourceConnector} (h : sourceConnector.Leaves w files s c) :
    c = ⟨some s⟩ := by
  obtain ⟨_, queues, make, rfl⟩ := h
  obtain ⟨_, -, rfl⟩ := map_eq_ok.mp make
  rfl

theorem stop_value (queues : QueueRegistry) (t : k.State σ) : (k.stop queues t).value = k.new := by
  cases k with
  | sinkTask =>
    obtain ⟨_ | sink⟩ := t
    · rfl
    · rfl
  | sourceTask =>
    obtain ⟨_ | source⟩ := t
    · rfl
    · rfl
  | sinkConnector =>
    obtain ⟨_ | s⟩ := t
    · rfl
    · rfl
  | sourceConnector =>
    obtain ⟨_ | s⟩ := t
    · rfl
    · rfl

end Kind

namespace Host

section Set

variable {h : Host σ} {t : k.State σ}

@[simp] theorem withQueues_parts {queues : QueueRegistry} :
    (h.withQueues queues).parts = h.parts := rfl

@[simp] theorem set_parts : (h.set k number t).parts k number = t := by
  simp [set]

theorem set_parts_of_ne {k' : Kind} {number' : Nat} (other : ¬ (k = k' ∧ number = number')) :
    (h.set k number t).parts k' number' = h.parts k' number' := by
  simp only [set]
  split
  · rename_i same
    rw [if_neg fun eq => other ⟨same.symm, eq.symm⟩]
  · rfl

@[simp] theorem set_self : h.set k number (h.parts k number) = h := by
  simp only [set]
  congr 1
  funext k' number'
  split
  · rename_i same
    subst same
    split
    · rename_i same
      rw [same]
    · rfl
  · rfl

@[simp] theorem set_set {t' : k.State σ} :
    (h.set k number t).set k number t' = h.set k number t' := by
  simp only [set]
  congr 1
  funext k' number'
  split
  · split
    · rfl
    · rfl
  · rfl

end Set

/-- The last start of a task or connector that succeeded, if there was no stop after it. -/
def follow (k : Kind) (number : Nat) (last : Option (Files × Settings)) :
    Call × Answer → Option (Files × Settings)
  | (.start k' number' files s, .started) =>
    if k' = k ∧ number' = number then some (files, s) else last
  | (.stop k' number', _) => if k' = k ∧ number' = number then none else last
  | _ => last

def inForce (k : Kind) (number : Nat) (events : List (Call × Answer)) : Option (Files × Settings) :=
  events.foldl (follow k number) none

def AsLeft (w : World σ) (k : Kind) (last : Option (Files × Settings)) (t : k.State σ) : Prop :=
  match last with
  | some (files, s) => k.Leaves w files s t
  | none => t = k.new

variable (h : Host σ)

theorem answer_start_of_error (number : Nat) {f : ConfigFault} (bad : k.make w files s = .error f) :
    (h.answer w (.start k number files s)).value = (.refused f, h) := by
  simp only [answer, Logged.value_bind, Kind.restart_run, bad, Start.settle, set_self]
  rfl

theorem answer_start_of_ok (number : Nat) {made : QueueRegistry → k.State σ × QueueRegistry}
    (good : k.make w files s = .ok made) :
    (h.answer w (.start k number files s)).value =
      (.started, (h.set k number (made h.fx.queues).1).withQueues (made h.fx.queues).2) := by
  simp only [answer, Logged.value_bind, Kind.restart_run, good, Start.settle]
  rfl

theorem answer_start_set (number : Nat) {made : QueueRegistry → k.State σ × QueueRegistry}
    (good : k.make w files s = .ok made) (before : k.State σ) :
    ((h.set k number before).answer w (.start k number files s)).value =
      (h.answer w (.start k number files s)).value := by
  rw [answer_start_of_ok _ number good, answer_start_of_ok _ number good, set_set]
  rfl

theorem answer_start (number : Nat) (files : Files) (s : Settings) :
    (h.answer w (.start k number files s)).value.1 = match k.make w files s with
      | .ok _ => .started
      | .error f => .refused f := by
  cases make : k.make w files s with
  | error f => rw [answer_start_of_error h number make]
  | ok made => rw [answer_start_of_ok h number make]

theorem answer_asLeft {last : Option (Files × Settings)} (call : Call)
    (left : AsLeft w k last (h.parts k number)) :
    AsLeft w k (follow k number last (call, (h.answer w call).value.1))
      ((h.answer w call).value.2.parts k number) := by
  cases call with
  | start k' number' files s =>
    cases make : k'.make w files s with
    | error f =>
      rw [answer_start_of_error h number' make]
      exact left
    | ok made =>
      rw [answer_start_of_ok h number' make, withQueues_parts]
      by_cases same : k' = k ∧ number' = number
      · obtain ⟨rfl, rfl⟩ := same
        simp only [follow, and_self, if_true, set_parts]
        exact ⟨made, h.fx.queues, make, rfl⟩
      · simp only [follow, if_neg same, set_parts_of_ne same]
        exact left
  | stop k' number' =>
    simp only [answer, Logged.value_bind, Logged.value_pure, Kind.stop_value]
    by_cases same : k' = k ∧ number' = number
    · obtain ⟨rfl, rfl⟩ := same
      simp only [follow, and_self, if_true, set_parts]
      rfl
    · simp only [follow, if_neg same, set_parts_of_ne same]
      exact left
  | put number' records order => exact left
  | poll number' => exact left
  | sinkConfigs number' most => exact left
  | sourceConfigs number' most => exact left

theorem run_asLeft {last : Option (Files × Settings)} (calls : List Call)
    (left : AsLeft w k last (h.parts k number)) :
    AsLeft w k ((h.run w calls).value.1.foldl (follow k number) last)
      ((h.run w calls).value.2.parts k number) := by
  induction calls generalizing h last with
  | nil => exact left
  | cons call calls ih => exact ih _ (answer_asLeft h call left)

def copies (last : Option (Files × Settings)) (most : Nat) : List Settings :=
  match last with
  | some (_, s) => List.replicate most s
  | none => []

structure Orderly (w : World σ) (events : List (Call × Answer)) (h : Host σ) : Prop where
  parts : ∀ k number, AsLeft w k (inForce k number events) (h.parts k number)
  put : ∀ number records order,
    (h.answer w (.put number records order)).value.1 = .put (.error .notStarted) ↔
      inForce .sinkTask number events = none
  poll : ∀ number,
    (h.answer w (.poll number)).value.1 = .polled none ↔ inForce .sourceTask number events = none
  sinkConfigs : ∀ number most, (h.answer w (.sinkConfigs number most)).value.1 =
    .configs (copies (inForce .sinkConnector number events) most)
  sourceConfigs : ∀ number most, (h.answer w (.sourceConfigs number most)).value.1 =
    .configs (copies (inForce .sourceConnector number events) most)
  /-- A start is refused and changes nothing, or what it does has nothing to do with what was
  there before. -/
  start : ∀ k number files s,
    let start (h : Host σ) := (h.answer w (.start k number files s)).value
    (∃ f, start h = (.refused f, h)) ∨
      (start h).1 = .started ∧ ∀ before, start (h.set k number before) = start h
  /-- Settings are taken or refused for nothing but what is in them and in the files. -/
  verdict : ∀ k number files s,
    (h.answer w (.start k number files s)).value.1 = match k.make w files s with
      | .ok _ => .started
      | .error f => .refused f
  /-- A connector and a task of the same end take and refuse the same settings. -/
  sinks : ∀ number number' files s,
    (h.answer w (.start .sinkConnector number files s)).value.1 =
      (h.answer w (.start .sinkTask number' files s)).value.1
  sources : ∀ number number' files s,
    (h.answer w (.start .sourceConnector number files s)).value.1 =
      (h.answer w (.start .sourceTask number' files s)).value.1

theorem AsLeft.put_iff {last : Option (Files × Settings)} {t : SinkTask σ}
    (left : AsLeft w .sinkTask last t) (records : List Record) (order : List Nat)
    (fx : Sink.Effects σ) :
    (t.put records order fx).value.1 = .error .notStarted ↔ last = none := by
  cases last with
  | none =>
    obtain rfl : t = SinkTask.new := left
    exact ⟨fun _ => rfl, fun _ => rfl⟩
  | some last =>
    obtain ⟨sink, rfl⟩ := left.sinkTask
    refine ⟨fun refused => ?_, nofun⟩
    rcases SinkTask.put_cases sink records order fx with
      ⟨_, _, _, _, -, -, -, other, -⟩ | ⟨-, faults⟩
    · cases refused.symm.trans other
    · cases faults _ refused

theorem AsLeft.poll_iff {last : Option (Files × Settings)} {t : SourceTask}
    (left : AsLeft w .sourceTask last t) (queues : QueueRegistry) :
    (t.poll queues).value.1 = none ↔ last = none := by
  cases last with
  | none =>
    obtain rfl : t = SourceTask.new := left
    exact ⟨fun _ => rfl, fun _ => rfl⟩
  | some last =>
    obtain ⟨source, rfl⟩ := left.sourceTask
    rw [SourceTask.poll_eq]
    exact ⟨nofun, nofun⟩

theorem AsLeft.sinkConfigs {last : Option (Files × Settings)} {c : SinkConnector}
    (left : AsLeft w .sinkConnector last c) (most : Nat) :
    c.taskConfigs most = copies last most := by
  cases last with
  | none =>
    obtain rfl : c = SinkConnector.new := left
    rfl
  | some last =>
    obtain rfl := left.sinkConnector
    rfl

theorem AsLeft.sourceConfigs {last : Option (Files × Settings)} {c : SourceConnector}
    (left : AsLeft w .sourceConnector last c) (most : Nat) :
    c.taskConfigs most = copies last most := by
  cases last with
  | none =>
    obtain rfl : c = SourceConnector.new := left
    rfl
  | some last =>
    obtain rfl := left.sourceConnector
    rfl

theorem orderly_of_asLeft {events : List (Call × Answer)}
    (left : ∀ k number, AsLeft w k (inForce k number events) (h.parts k number)) :
    Orderly w events h where
  parts := left
  put number records order := by
    rw [← (left .sinkTask number).put_iff records order h.fx]
    exact ⟨Answer.put.inj, congrArg Answer.put⟩
  poll number := by
    rw [← (left .sourceTask number).poll_iff h.fx.queues]
    exact ⟨Answer.polled.inj, congrArg Answer.polled⟩
  sinkConfigs number most :=
    congrArg Answer.configs ((left .sinkConnector number).sinkConfigs most)
  sourceConfigs number most :=
    congrArg Answer.configs ((left .sourceConnector number).sourceConfigs most)
  start k number files s := by
    cases make : k.make w files s with
    | error f => exact .inl ⟨f, answer_start_of_error h number make⟩
    | ok made =>
      exact .inr ⟨congrArg (·.1) (answer_start_of_ok h number make), answer_start_set h number make⟩
  verdict k number files s := answer_start h number files s
  -- both only read the settings, and neither refuses what was read
  sinks number number' files s := by
    rw [answer_start, answer_start]
    simp only [Kind.make, SinkConnector.make, SinkTask.make]
    cases Sink.read w files s with
    | ok read => rfl
    | error f => rfl
  sources number number' files s := by
    rw [answer_start, answer_start]
    simp only [Kind.make, SourceConnector.make, SourceTask.make]
    cases SourceSettings.ofSettings s with
    | ok settings => rfl
    | error f => rfl

/-- After any calls, in any order and on any tasks and connectors, each of them is in order for the
next call. -/
theorem run_orderly (w : World σ) (fx : Sink.Effects σ) (calls : List Call) :
    let (events, h) := ((new fx).run w calls).value
    Orderly w events h :=
  orderly_of_asLeft _ fun _ _ => run_asLeft (new fx) calls rfl

example (w : World σ) (fx : Sink.Effects σ) :
    let topics : Settings := ⟨.ofList [(successTopicKey, "good"), (errorTopicKey, "bad")]⟩
    inForce .sourceTask 0 ((new fx).run w [.start .sourceTask 0 .empty topics,
      .start .sourceTask 0 .empty ⟨∅⟩]).value.1 = some (.empty, topics) := by
  rfl

end Host

end HttpBridge
