import HttpBridge.Proofs.Tasks
/-!
The bridge as a whole: sinks whose calls end in any order and sources that poll in between, all on
the queue of one name.
-/

namespace HttpBridge.Bridge

variable {σ : Type}

structure Batch (σ : Type) where
  number : Nat
  sink : SinkState σ
  jobs : List Sink.Job
  done : List (Nat × Exchange)

/-- An exchange that the queue took, with the place of its record in a batch. -/
structure Accepted where
  batch : Nat
  place : Nat
  record : Record
  exchange : Exchange

def Accepted.queued (a : Accepted) : QueueRecord :=
  ⟨a.record.headers, a.record.key, none, a.exchange⟩

structure Answer where
  batch : Nat
  records : List Record
  exchanges : List Exchange

structure Polled where
  settings : SourceSettings
  record : Record

structure State (σ : Type) where
  sinks : List (SinkState σ)
  sources : List SourceState
  begun : Nat
  batches : List (Batch σ)
  fx : Sink.Effects σ
  accepted : List Accepted
  answers : List Answer
  polled : List Polled

def State.start (capacity : UInt64) (metrics : Metrics) (state : σ) : State σ :=
  ⟨[], [], 0, [], ⟨.new capacity, metrics, state⟩, [], [], []⟩

def Batch.taken (b : Batch σ) (place : Nat) (r : Record) (e : Exchange) (queues : QueueRegistry) :
    List Accepted :=
  match b.sink.queue with
  | none => []
  | some handle =>
    match (queues.enqueue handle ⟨r.headers, r.key, none, e⟩).value with
    | .ok _ => [⟨b.number, place, r, e⟩]
    | .error _ => []

theorem publish_cases (b : Batch σ) (place : Nat) (r : Record) (e : Exchange)
    (queues : QueueRegistry) :
    (b.taken place r e queues = [] ∧ (Sink.publish b.sink.queue r e queues).value = queues) ∨
    ∃ handle queues', b.sink.queue = some handle ∧
      (queues.enqueue handle ⟨r.headers, r.key, none, e⟩).value = .ok queues' ∧
      b.taken place r e queues = [⟨b.number, place, r, e⟩] ∧
      (Sink.publish b.sink.queue r e queues).value = queues' := by
  cases queue : b.sink.queue with
  | none => exact .inl ⟨by simp [Batch.taken, queue], rfl⟩
  | some handle =>
    cases result : (queues.enqueue handle ⟨r.headers, r.key, none, e⟩).value with
    | error f =>
      refine .inl ⟨?_, ?_⟩
      · simp [Batch.taken, queue, result]
      · simp [Sink.publish, result]
    | ok queues' =>
      refine .inr ⟨handle, queues', rfl, result, ?_, ?_⟩
      · simp [Batch.taken, queue, result]
      · simp [Sink.publish, result]

inductive Step (name : String) : State σ → State σ → Prop
  | startSink {s : State σ} {w : World σ} {files : Files} {settings : Settings} {sink : SinkState σ}
      {queues : QueueRegistry} (named : settings.queueName = name)
      (started : (SinkTask.start w files s.fx.queues settings).Gives (⟨some sink⟩, queues)) :
      Step name s { s with sinks := sink :: s.sinks, fx := { s.fx with queues } }
  | startSource {s : State σ} {settings : Settings} {source : SourceState} {queues : QueueRegistry}
      (named : settings.queueName = name)
      (started : (SourceTask.start s.fx.queues settings).Gives (⟨some source⟩, queues)) :
      Step name s { s with sources := source :: s.sources, fx := { s.fx with queues } }
  | put {s : State σ} {sink : SinkState σ} {records : List Record} {jobs : List Sink.Job} {state : σ}
      (started : sink ∈ s.sinks)
      (read : (Sink.readBatch sink.task.world sink.settings 0 records s.fx.state).value =
        (.ok jobs, state)) :
      Step name s { s with
        begun := s.begun + 1
        batches := ⟨s.begun, sink, jobs, []⟩ :: s.batches
        fx := ⟨s.fx.queues, jobs.foldl (fun m job => sink.task.begin m job.2) s.fx.metrics, state⟩ }
  | complete {s : State σ} {before after : List (Batch σ)} {b : Batch σ} {place : Nat}
      {job : Sink.Job} {e : Exchange} {fx : Sink.Effects σ}
      (running : s.batches = before ++ b :: after) (there : b.jobs[place]? = some job)
      (due : b.done.lookup place = none)
      (completes : (Sink.complete b.sink job s.fx).value = (.ok e, fx)) :
      Step name s { s with
        batches := before ++ { b with done := b.done ++ [(place, e)] } :: after
        fx
        accepted := s.accepted ++ b.taken place job.1 e s.fx.queues }
  | fail {s : State σ} {before after : List (Batch σ)} {b : Batch σ} {place : Nat}
      {job : Sink.Job} {f : SinkFault} {fx : Sink.Effects σ}
      (running : s.batches = before ++ b :: after) (there : b.jobs[place]? = some job)
      (fails : (Sink.complete b.sink job s.fx).value = (.error f, fx)) :
      Step name s { s with batches := before ++ after, fx }
  | abandon {s : State σ} {before after : List (Batch σ)} {b : Batch σ}
      (running : s.batches = before ++ b :: after) :
      Step name s { s with batches := before ++ after }
  | answer {s : State σ} {before after : List (Batch σ)} {b : Batch σ}
      (running : s.batches = before ++ b :: after)
      (complete : ∀ place < b.jobs.length, (b.done.lookup place).isSome) :
      Step name s { s with
        batches := before ++ after
        answers := s.answers ++
          [⟨b.number, b.jobs.map (·.1), Sink.inOrder b.jobs.length b.done⟩] }
  | poll {s : State σ} {source : SourceState} {records : List Record} {queues : QueueRegistry}
      (started : source ∈ s.sources)
      (polls : ((⟨some source⟩ : SourceTask).poll s.fx.queues).value = (some records, queues)) :
      Step name s { s with
        fx := { s.fx with queues }
        polled := s.polled ++ records.map (⟨source.settings, ·⟩) }
  /-- Whatever goes on elsewhere. -/
  | surroundings {s : State σ} (metrics : Metrics) (state : σ) :
      Step name s { s with fx := ⟨s.fx.queues, metrics, state⟩ }

inductive Reachable (name : String) : State σ → Prop
  | start (capacity : UInt64) (metrics : Metrics) (state : σ) :
      Reachable name (.start capacity metrics state)
  | next {s s' : State σ} : Reachable name s → Step name s s' → Reachable name s'

theorem mem_of_replaced {before after : List (Batch σ)} {b b' other : Batch σ}
    (member : other ∈ before ++ b' :: after) : other = b' ∨ other ∈ before ++ b :: after := by
  rcases List.mem_append.mp member with early | member
  · exact .inr (List.mem_append_left _ early)
  · rcases List.mem_cons.mp member with new | late
    · exact .inl new
    · exact .inr (List.mem_append_right _ (List.mem_cons_of_mem _ late))

structure SameTasks (s s' : State σ) : Prop where
  sinks : s'.sinks = s.sinks
  sources : s'.sources = s.sources
  polled : s'.polled = s.polled

section Put

variable {name : String}

theorem readBatch_records {w : World σ} {settings : SinkSettings} {index : Nat}
    {records : List Record} {jobs : List Sink.Job} {st st' : σ}
    (h : (Sink.readBatch w settings index records st).value = (.ok jobs, st')) :
    jobs.map (·.1) = records := by
  induction records generalizing index jobs st st' with
  | nil =>
    cases h
    rfl
  | cons r records ih =>
    simp only [Sink.readBatch, Logged.value_bind] at h
    split at h
    · cases h
    · rename_i request _
      simp only [Logged.value_bind, Logged.value_pure, Prod.mk.injEq] at h
      obtain ⟨all, -⟩ := h
      obtain ⟨jobs', rest, rfl⟩ := map_eq_ok.mp all
      rw [List.map_cons, ih (Prod.ext rest rfl)]

theorem Reachable.completeAll {places : List Nat} {s : State σ} {b : Batch σ}
    {rest : List (Batch σ)} {result : Except SinkFault (List (Nat × Exchange))}
    {fx : Sink.Effects σ} (h : Reachable name s) (running : s.batches = b :: rest)
    (distinct : places.Nodup) (there : ∀ place ∈ places, place < b.jobs.length)
    (due : ∀ place ∈ places, b.done.lookup place = none)
    (all : (Sink.completeAll b.sink b.jobs places s.fx).value = (result, fx)) :
    ∃ s', Reachable name s' ∧ s'.fx = fx ∧ SameTasks s s' ∧ s'.answers = s.answers ∧
      ∀ done, result = .ok done →
        s'.batches = { b with done := b.done ++ done } :: rest ∧ done.map (·.1) = places := by
  -- each call is a step of its own, after which the batch has one more entry
  induction places generalizing s b result fx with
  | nil =>
    cases all
    refine ⟨s, h, rfl, ⟨rfl, rfl, rfl⟩, rfl, ?_⟩
    rintro _ ⟨⟩
    rw [running, List.append_nil]
    exact ⟨rfl, rfl⟩
  | cons place places ih =>
    obtain ⟨fresh, distinct⟩ := List.nodup_cons.mp distinct
    have inside := there place List.mem_cons_self
    have job := List.getElem?_eq_getElem inside
    simp only [Sink.completeAll, job, Logged.value_bind] at all
    split at all
    · rename_i f fx' fails
      cases all
      refine ⟨_, h.next (.fail (running.trans (List.nil_append _).symm) job fails), rfl,
        ⟨rfl, rfl, rfl⟩, rfl, nofun⟩
    · rename_i e fx' completes
      have step := h.next (.complete (running.trans (List.nil_append _).symm) job
        (due place List.mem_cons_self) completes)
      simp only [Logged.value_bind, Logged.value_pure, Prod.mk.injEq] at all
      obtain ⟨result, rfl⟩ := all
      -- no place comes twice, so the others are still due
      have due' : ∀ other ∈ places, (b.done ++ [(place, e)]).lookup other = none := by
        intro other member
        have ne : other ≠ place := fun same => fresh (same ▸ member)
        rw [List.lookup_append, due other (List.mem_cons_of_mem _ member), Option.none_or,
          List.lookup_cons, beq_false_of_ne ne]
        rfl
      obtain ⟨s', reached, fx, tasks, answers, last⟩ := ih step rfl distinct
        (fun other member => there other (List.mem_cons_of_mem _ member)) due' rfl
      refine ⟨s', reached, fx, { tasks with }, answers, ?_⟩
      intro done same
      obtain ⟨done', tail, rfl⟩ := map_eq_ok.mp (result.trans same)
      obtain ⟨batches, ends⟩ := last done' tail
      rw [batches, List.append_assoc, List.map_cons, ends]
      exact ⟨rfl, rfl⟩

/-- A whole put is one of the ways in which its calls can go. -/
theorem Reachable.put {s : State σ} {sink : SinkState σ} {records : List Record}
    {order : List Nat} {result : Except SinkFault (List Exchange)} {fx : Sink.Effects σ}
    (h : Reachable name s) (started : sink ∈ s.sinks)
    (all : order.Perm (List.range records.length))
    (puts : ((⟨some sink⟩ : SinkTask σ).put records order s.fx).value = (result, fx)) :
    ∃ s', Reachable name s' ∧ s'.fx = fx ∧ SameTasks s s' ∧ ∀ exchanges, result = .ok exchanges →
      ∃ number, s'.answers = s.answers ++ [⟨number, records, exchanges⟩] := by
  simp only [SinkTask.put, Logged.value_bind] at puts
  split at puts
  · rename_i f st read
    cases puts
    exact ⟨_, h.next (.surroundings s.fx.metrics st), rfl, ⟨rfl, rfl, rfl⟩, nofun⟩
  · rename_i jobs st read
    have begins := h.next (.put started read)
    have same := readBatch_records read
    have length : jobs.length = records.length := by
      rw [← same, List.length_map]
    simp only [Logged.value_bind, Logged.value_pure, Prod.mk.injEq] at puts
    obtain ⟨result, rfl⟩ := puts
    obtain ⟨s', reached, fx, tasks, answers, last⟩ := begins.completeAll rfl
      (all.nodup_iff.mpr List.nodup_range)
      (fun place member => length ▸ List.mem_range.mp (all.mem_iff.mp member))
      (fun _ _ => rfl) rfl
    cases ends : (Sink.completeAll sink jobs order ⟨s.fx.queues,
        jobs.foldl (fun m job => sink.task.begin m job.2) s.fx.metrics, st⟩).value.1 with
    | error f =>
      refine ⟨s', reached, fx, { tasks with }, fun exchanges gives => ?_⟩
      rw [ends, gives] at result
      cases result
    | ok done =>
      obtain ⟨batches, places⟩ := last done ends
      have complete : ∀ place < jobs.length, (done.lookup place).isSome :=
        Sink.complete_of_perm (places.symm ▸ length.symm ▸ all)
      refine ⟨_, reached.next (.answer (batches.trans (List.nil_append _).symm) complete), fx,
        { tasks with }, fun exchanges gives => ⟨s.begun, ?_⟩⟩
      rw [ends, gives] at result
      cases result
      simp only [answers, same]
      rfl

end Put

end HttpBridge.Bridge
