import HttpBridge.Proofs.Backends
import HttpBridge.Proofs.Batch

namespace HttpBridge

variable {σ : Type}

inductive World.Identifies (w : World σ) : σ → σ → Prop
  | none (st : σ) : w.Identifies st st
  | drawn {st st' : σ} (rest : w.Identifies (w.identifier st).2 st') : w.Identifies st st'

namespace World.Identifies

variable {w : World σ}

theorem trans {st st' st'' : σ} (h : w.Identifies st st') (h' : w.Identifies st' st'') :
    w.Identifies st st'' := by
  induction h with
  | none => exact h'
  | drawn _ ih => exact .drawn (ih h')

theorem noting {before after : σ × List (Time.Moment × Submission)}
    (h : w.noting.Identifies before after) : after.2 = before.2 := by
  induction h with
  | none => rfl
  | drawn _ ih => exact ih

end World.Identifies

inductive SinkFault.OfCall : SinkFault → Prop
  | exchange (f : ExchangeFault) : OfCall (.exchange f)
  | tooLong : OfCall .tooLong
  | uncounted : OfCall .uncounted

namespace Sink

section Reading

variable (w : World σ) (s : SinkSettings)

theorem addIdentifier_identifies (wanted : Bool) (name : String) (r : Request) (st : σ) :
    w.Identifies st (addIdentifier w wanted name r st).2 := by
  unfold addIdentifier
  split
  · exact .drawn (.none _)
  · exact .none st

theorem enrich_identifies (r : Request) (st : σ) : w.Identifies st (enrich w s r st).2 :=
  (addIdentifier_identifies ..).trans (addIdentifier_identifies ..)

theorem readBatch_identifies (index : Nat) (records : List Record) (st : σ) :
    w.Identifies st (readBatch w s index records st).value.2 := by
  induction records generalizing index st with
  | nil => exact .none st
  | cons r records ih =>
    simp only [readBatch, Logged.value_bind]
    split
    · exact .none st
    · exact (enrich_identifies ..).trans (ih ..)

theorem readRequest_error {r : Record} {f : Json.Fault} (h : Request.decode r.value = .error f)
    (index : Nat) : (readRequest index r).value = .error (.invalidRequest r.topic index f) := by
  simp [readRequest, h]

theorem readBatch_cases (index : Nat) (records : List Record) (st : σ) :
    (∃ before r after f, records = before ++ r :: after ∧
      (∀ earlier ∈ before, ∃ request, Decodes earlier request) ∧
      Request.decode r.value = .error f ∧
      (readBatch w s index records st).value.1 =
        .error (.invalidRequest r.topic (index + before.length) f)) ∨
    (∀ r ∈ records, ∃ request, Decodes r request) ∧
      ∃ jobs, (readBatch w s index records st).value.1 = .ok jobs := by
  induction records generalizing index st with
  | nil => exact .inr ⟨List.forall_mem_nil _, [], rfl⟩
  | cons r records ih =>
    cases first : Request.decode r.value with
    | error f =>
      refine .inl ⟨[], r, records, f, rfl, List.forall_mem_nil _, first, ?_⟩
      simp [readBatch, readRequest_error first]
    | ok request =>
      rcases ih (index + 1) (enrich w s request st).2 with
        ⟨before, bad, after, f, rfl, earlier, fault, refused⟩ | ⟨all, jobs, read⟩
      · refine .inl ⟨r :: before, bad, after, f, rfl,
          List.forall_mem_cons.mpr ⟨⟨request, first⟩, earlier⟩, fault, ?_⟩
        simp [readBatch, readRequest_ok first, refused, Except.map, Nat.add_assoc, Nat.add_comm 1]
      · refine .inr ⟨List.forall_mem_cons.mpr ⟨⟨request, first⟩, all⟩,
          (r, (enrich w s request st).1) :: jobs, ?_⟩
        simp [readBatch, readRequest_ok first, read, Except.map]

end Reading

section Completing

variable {sink : SinkState σ} {jobs : List Job} {fx : Effects σ} {f : SinkFault}

theorem complete_fault {job : Job} (h : (complete sink job fx).value.1 = .error f) : f.OfCall := by
  unfold complete at h
  simp only [Logged.value_bind] at h
  split at h
  · cases h
    exact .uncounted
  · split at h
    · cases h
      exact .tooLong
    · cases h
      exact .exchange _
    · cases h

theorem completeAll_fault {places : List Nat}
    (h : (completeAll sink jobs places fx).value.1 = .error f) : f.OfCall := by
  induction places generalizing fx with
  | nil => cases h
  | cons place places ih =>
    cases there : jobs[place]? with
    | none =>
      simp only [completeAll, there] at h
      exact ih h
    | some job =>
      simp only [completeAll, there, Logged.value_bind] at h
      split at h
      · rename_i fails
        cases h
        exact complete_fault (congrArg (·.1) fails)
      · exact ih (map_eq_error.mp h)

end Completing

end Sink

section Put

/-- All that can come of a batch: either it is refused for its first record that is no request, and
nothing happened but that the records before it were given identifiers, or all its records are
requests, and what is at fault are calls. -/
theorem SinkTask.put_cases (sink : SinkState σ) (records : List Record) (order : List Nat)
    (fx : Sink.Effects σ) :
    let put := ((⟨some sink⟩ : SinkTask σ).put records order fx).value
    (∃ before r after f, records = before ++ r :: after ∧
      (∀ earlier ∈ before, ∃ request, Sink.Decodes earlier request) ∧
      Request.decode r.value = .error f ∧
      put.1 = .error (.invalidRequest r.topic before.length f) ∧
      put.2.queues = fx.queues ∧ put.2.metrics = fx.metrics ∧
      sink.task.world.Identifies fx.state put.2.state) ∨
    (∀ r ∈ records, ∃ request, Sink.Decodes r request) ∧ ∀ f, put.1 = .error f → f.OfCall := by
  have identifies := Sink.readBatch_identifies sink.task.world sink.settings 0 records fx.state
  have cases := Sink.readBatch_cases sink.task.world sink.settings 0 records fx.state
  simp only [SinkTask.put, Logged.value_bind]
  generalize (Sink.readBatch sink.task.world sink.settings 0 records fx.state).value = read at *
  obtain ⟨jobs, st⟩ := read
  rcases cases with ⟨before, r, after, f, split, earlier, fault, rfl⟩ | ⟨all, jobs, rfl⟩
  · rw [Nat.zero_add]
    exact .inl ⟨before, r, after, f, split, earlier, fault, rfl, rfl, rfl, identifies⟩
  · exact .inr ⟨all, fun f fails => Sink.completeAll_fault (map_eq_error.mp fails)⟩

variable {w : World σ} {files : Files} {queues queues' : QueueRegistry} {s : Settings}

/-- A batch with a record that is no request is refused for the first such record, wherever it
stands and whatever else is in the batch: no call is made, nothing is counted, and no queue is made
or changed. A batch of requests is never refused. -/
theorem SinkTask.put_all_or_nothing
    {sink : SinkState (σ × List (Time.Moment × Submission))}
    (started : (start w.noting files queues s).Gives (⟨some sink⟩, queues'))
    (records : List Record) (order : List Nat)
    (fx : Sink.Effects (σ × List (Time.Moment × Submission))) :
    let put := ((⟨some sink⟩ : SinkTask _).put records order fx).value
    ((∃ r ∈ records, ∀ request, ¬ Sink.Decodes r request) →
      (∃ before r after f, records = before ++ r :: after ∧
        (∀ earlier ∈ before, ∃ request, Sink.Decodes earlier request) ∧
        Request.decode r.value = .error f ∧
        put.1 = .error (.invalidRequest r.topic before.length f)) ∧
      put.2.queues = fx.queues ∧ put.2.metrics = fx.metrics ∧ put.2.state.2 = fx.state.2) ∧
    ((∀ r ∈ records, ∃ request, Sink.Decodes r request) →
      ∀ topic index f, put.1 ≠ .error (.invalidRequest topic index f)) := by
  have cases := SinkTask.put_cases sink records order fx
  rw [(SinkTask.started started).world] at cases
  rcases cases with
    ⟨before, r, after, f, split, earlier, fault, refused, queues, metrics, drawn⟩ | ⟨all, faults⟩
  · refine ⟨fun _ => ⟨⟨before, r, after, f, split, earlier, fault, refused⟩, queues, metrics,
      drawn.noting⟩, fun good => ?_⟩
    obtain ⟨request, decodes⟩ := good r (split ▸ List.mem_append_right _ List.mem_cons_self)
    rw [Sink.Decodes, fault] at decodes
    cases decodes
  · constructor
    · rintro ⟨r, member, bad⟩
      obtain ⟨request, decodes⟩ := all r member
      exact absurd decodes (bad request)
    · intro _ topic index f refused
      cases faults _ refused

def emptyRecord : Record :=
  .new "others" "\x7b\x7d"

theorem not_decodes_emptyRecord (request : Request) : ¬ Sink.Decodes emptyRecord request := by
  have fails : (Request.decode emptyRecord.value).toOption = none := by decide +kernel
  intro decodes
  rw [Sink.Decodes] at decodes
  rw [decodes] at fails
  cases fails

theorem SinkTask.put_all_or_nothing_second :
    ∃ (sink : SinkState (Nat × List (Time.Moment × Submission))) (queues : QueueRegistry)
      (f : Json.Fault),
      (start Retry.clockWorld.noting .empty (.new 1) publishing).Gives (⟨some sink⟩, queues) ∧
      let put := ((⟨some sink⟩ : SinkTask _).put
        [keyedRecord "a", emptyRecord, keyedRecord "b"] [2, 0, 1] ⟨queues, .empty, (0, [])⟩).value
      put.1 = .error (.invalidRequest "others" 1 f) ∧
        put.2.queues = queues ∧ put.2.metrics = .empty ∧ put.2.state.2 = [] := by
  have starts : (start Retry.clockWorld.noting .empty (.new 1) publishing).run.value.toOption.any
      (·.1.state.isSome) = true := by
    decide +kernel
  obtain ⟨⟨⟨sink⟩, queues⟩, gives, known⟩ := (Option.any_eq_true ..).mp starts
  obtain ⟨sink, rfl⟩ := Option.isSome_iff_exists.mp known
  have started := Setup.gives_of_toOption gives
  have bad : ∃ r ∈ [keyedRecord "a", emptyRecord, keyedRecord "b"],
      ∀ request, ¬ Sink.Decodes r request :=
    ⟨emptyRecord, by simp, not_decodes_emptyRecord⟩
  obtain ⟨⟨before, r, after, f, split, earlier, fault, refused⟩, unchanged⟩ :=
    (SinkTask.put_all_or_nothing started _ [2, 0, 1] ⟨queues, .empty, (0, [])⟩).1 bad
  refine ⟨sink, queues, f, started, ?_, unchanged⟩
  rw [refused]
  -- the first record is a request, and what comes after the second one is never reached
  match before with
  | [] =>
    obtain ⟨rfl, -⟩ := List.cons.inj split
    have decodes := decodes_keyedRecord "a"
    rw [Sink.Decodes, fault] at decodes
    cases decodes
  | [_] =>
    obtain ⟨-, rest⟩ := List.cons.inj split
    obtain ⟨rfl, -⟩ := List.cons.inj rest
    rfl
  | _ :: second :: _ =>
    obtain ⟨-, rest⟩ := List.cons.inj split
    obtain ⟨rfl, -⟩ := List.cons.inj rest
    obtain ⟨request, decodes⟩ := earlier emptyRecord (by simp)
    exact absurd decodes (not_decodes_emptyRecord request)

end Put

end HttpBridge
