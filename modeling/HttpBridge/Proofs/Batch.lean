import HttpBridge.Proofs.Fifo
import HttpBridge.Proofs.Metrics
import HttpBridge.Proofs.Queue
import HttpBridge.Proofs.Tasks
import Mathlib.Data.List.Forall2

namespace HttpBridge

variable {σ : Type}

theorem HttpTask.call_ok {w : World σ} {t : HttpTask σ} (h : t.registry.BuiltIn w) (r : Request)
    (st : σ) : (t.call r st).value.result = none ∨
      ∃ e, (t.call r st).value.result = some (.ok e) := by
  cases given : (t.call r st).value.result with
  | none => exact .inl rfl
  | some result =>
    obtain ⟨attempt, st', same⟩ := call_result given
    obtain ⟨e, ok⟩ := (h r).call_ok r attempt st'
    exact .inr ⟨e, congrArg some (same.trans ok)⟩

namespace Sink

def enrichAll (w : World σ) (s : SinkSettings) : List Request → σ → List Request × σ
  | [], st => ([], st)
  | r :: rs, st =>
    let (r, st) := enrich w s r st
    let (rs, st) := enrichAll w s rs st
    (r :: rs, st)

def Decodes (r : Record) (request : Request) : Prop :=
  Request.decode r.value = .ok request

theorem readRequest_ok {r : Record} {request : Request} (h : Decodes r request) (index : Nat) :
    (readRequest index r).value = .ok request := by
  rw [Decodes] at h
  simp [readRequest, h]

theorem readBatch_ok {w : World σ} {s : SinkSettings} {records : List Record}
    {requests : List Request} (h : List.Forall₂ Decodes records requests) (index : Nat) (st : σ) :
    (readBatch w s index records st).value =
      (.ok (records.zip (enrichAll w s requests st).1), (enrichAll w s requests st).2) := by
  induction h generalizing index st with
  | nil => rfl
  | cons first _ ih =>
    simp only [readBatch, enrichAll, Logged.value_bind, readRequest_ok first, ih]
    rfl

theorem length_enrichAll (w : World σ) (s : SinkSettings) (requests : List Request) (st : σ) :
    (enrichAll w s requests st).1.length = requests.length := by
  induction requests generalizing st with
  | nil => rfl
  | cons r rs ih => simp [enrichAll, ih]

structure Ended where
  place : Nat
  record : Record
  id : String
  duration : Time.Duration
  exchange : Exchange

def Ended.queued (d : Ended) : QueueRecord :=
  ⟨d.record.headers, d.record.key, none, d.exchange⟩

def Ended.counted (d : Ended) : String × Time.Duration :=
  (d.id, d.duration)

/-- Says that the calls of a batch end in the given order of places, each with the exchange that its
request is submitted for where the one before left the surroundings. -/
inductive Ends (t : HttpTask σ) (jobs : List Job) : List Nat → σ → List Ended → σ → Prop
  | nil {st : σ} : Ends t jobs [] st [] st
  | cons {place : Nat} {places : List Nat} {r : Record} {request : Request} {m : Metrics}
      {run : RetryRun σ} {e : Exchange} {ended : List Ended} {st st' : σ}
      (there : jobs[place]? = some (r, request))
      (submits : (t.submit m request st).value.1 = run) (gives : run.result = some (.ok e))
      (rest : Ends t jobs places run.state ended st') :
      Ends t jobs (place :: places) st
        (⟨place, r, (t.registry.select request).id, t.world.elapsed st run.state, e⟩ :: ended) st'

inductive Uncounted (t : HttpTask σ) (jobs : List Job) : List Nat → σ → Prop
  | here {place : Nat} {places : List Nat} {job : Job} {st : σ} (there : jobs[place]? = some job)
      (none : (t.call job.2 st).value.result = none) : Uncounted t jobs (place :: places) st
  | later {place : Nat} {places : List Nat} {job : Job} {st : σ} (there : jobs[place]? = some job)
      (rest : Uncounted t jobs places (t.call job.2 st).value.state) :
      Uncounted t jobs (place :: places) st

section Ends

variable {t : HttpTask σ} {jobs : List Job} {places : List Nat} {ended : List Ended} {st st' : σ}

theorem ends_of_builtIn {w : World σ} (h : t.registry.BuiltIn w)
    (inside : ∀ place ∈ places, place < jobs.length) (st : σ) :
    Uncounted t jobs places st ∨ ∃ ended st', Ends t jobs places st ended st' := by
  induction places generalizing st with
  | nil => exact .inr ⟨[], st, .nil⟩
  | cons place places ih =>
    obtain ⟨first, inside⟩ := List.forall_mem_cons.mp inside
    have there := List.getElem?_eq_getElem first
    rcases t.call_ok h jobs[place].2 st with none | ⟨e, gives⟩
    · exact .inl (.here there none)
    · rcases ih inside (t.call jobs[place].2 st).value.state with rest | ⟨ended, st', rest⟩
      · exact .inl (.later there rest)
      · exact .inr ⟨_, _, .cons (m := .empty) there rfl gives rest⟩

theorem not_uncounted (fits : ∀ r, (t.registry.select r).policy.Fits) :
    ¬ Uncounted t jobs places st := by
  intro uncounted
  induction uncounted with
  | @here _ _ job st _ none =>
    have some := Retry.run_of_fits (w := t.world) (c := (t.registry.select job.2).client)
      (fits job.2) job.2 st
    have same : (t.call job.2 st).value = (Retry.run t.world (t.registry.select job.2).client
      (t.registry.select job.2).policy job.2 st).value := rfl
    rw [← same, none] at some
    cases some
  | later _ _ ih => exact ih

theorem Ends.map_place (h : Ends t jobs places st ended st') : ended.map (·.place) = places := by
  induction h with
  | nil => rfl
  | cons _ _ _ _ ih => rw [List.map_cons, ih]

theorem Ends.record (h : Ends t jobs places st ended st') :
    ∀ d ∈ ended, ∃ request, jobs[d.place]? = some (d.record, request) := by
  induction h with
  | nil => simp
  | cons there _ _ _ ih => exact List.forall_mem_cons.mpr ⟨⟨_, there⟩, ih⟩

theorem Ends.duration (h : Ends t jobs places st ended st') :
    ∀ d ∈ ended, ∃ st st', d.duration = t.world.elapsed st st' := by
  induction h with
  | nil => simp
  | cons _ _ _ _ ih => exact List.forall_mem_cons.mpr ⟨⟨_, _, rfl⟩, ih⟩

end Ends

def done (ended : List Ended) : List (Nat × Exchange) :=
  ended.map fun d => (d.place, d.exchange)

theorem map_done (ended : List Ended) : (done ended).map (·.1) = ended.map (·.place) := by
  simp [done]

def publishAll (queue : Option QueueHandle) (ended : List Ended) (queues : QueueRegistry) :
    QueueRegistry :=
  ended.foldl (fun queues d => (publish queue d.record d.exchange queues).value) queues

theorem publishAll_none (ended : List Ended) (queues : QueueRegistry) :
    publishAll none ended queues = queues := by
  induction ended with
  | nil => rfl
  | cons d ended ih => exact ih

section Publish

variable {queues : QueueRegistry} {handle : QueueHandle} {q : ExchangeQueue}

theorem publish_some (there : queues.get? handle = some q) (r : Record) (e : Exchange) :
    (publish (some handle) r e queues).value =
      queues.set handle (q.answer (.enqueue ⟨r.headers, r.key, none, e⟩)).2 := by
  simp only [publish, QueueRegistry.enqueue, there, ExchangeQueue.answer, Logged.value_bind]
  cases q.enqueue ⟨r.headers, r.key, none, e⟩ with
  | ok q' => rfl
  | error f => exact (QueueRegistry.set_get? there).symm

theorem publishAll_some (there : queues.get? handle = some q) (ended : List Ended) :
    publishAll (some handle) ended queues =
      queues.set handle (q.run ((ended.map (·.queued)).map .enqueue)).2 := by
  induction ended generalizing queues q with
  | nil => exact (QueueRegistry.set_get? there).symm
  | cons d ended ih =>
    rw [publishAll, List.foldl_cons, publish_some there]
    exact (ih (QueueRegistry.get?_set there)).trans (QueueRegistry.set_set ..)

end Publish

section Complete

variable {sink : SinkState σ} {jobs : List Job} {places : List Nat} {ended : List Ended}
  {st st' : σ} {m : Metrics}

theorem Ends.completeAll (h : Ends sink.task jobs places st ended st')
    (room : m.Room (ended.map (·.counted))) :
    ∃ m', ∀ queues, (completeAll sink jobs places ⟨queues, m, st⟩).value =
      (.ok (done ended), ⟨publishAll sink.queue ended queues, m', st'⟩) := by
  -- on the calls that end, for the counts that the calls before them left
  induction h generalizing m with
  | nil => exact ⟨m, fun queues => rfl⟩
  | @cons place places r request _ run e ended st st' there submits gives rest ih =>
    have calls : (sink.task.call request st).value = run := submits
    obtain ⟨m₁, counts, room⟩ := room.exchange e.success
    obtain ⟨m', ends⟩ := ih room
    refine ⟨m', fun queues => ?_⟩
    have first : (complete sink (r, request) ⟨queues, m, st⟩).value =
        (.ok e, ⟨(publish sink.queue r e queues).value, m₁, run.state⟩) := by
      simp [complete, calls, gives, HttpTask.finish, counts]
    simp [Sink.completeAll, there, first, ends, publishAll, done, Except.map]

theorem room_begin {counts : List (String × Time.Duration)} (t : HttpTask σ) (jobs : List Job)
    (room : m.Room counts) : (jobs.foldl (fun m job => t.begin m job.2) m).Room counts := by
  induction jobs generalizing m with
  | nil => exact room
  | cons job jobs ih => exact ih (room.call _)

theorem put_eq {records : List Record} {st₀ : σ}
    (read : (readBatch sink.task.world sink.settings 0 records st₀).value = (.ok jobs, st))
    (ends : Ends sink.task jobs places st ended st') (room : m.Room (ended.map (·.counted))) :
    ∃ m', ∀ queues, ((⟨some sink⟩ : SinkTask σ).put records places ⟨queues, m, st₀⟩).value =
      (.ok (inOrder jobs.length (done ended)), ⟨publishAll sink.queue ended queues, m', st'⟩) := by
  obtain ⟨m', completes⟩ := ends.completeAll (room_begin sink.task jobs room)
  refine ⟨m', fun queues => ?_⟩
  simp [SinkTask.put, read, completes, Except.map]

end Complete

end Sink

section Put

variable {w : World σ} {files : Files} {queues queues' : QueueRegistry} {s : Settings}
  {sink : SinkState σ} {records : List Record} {requests : List Request} {order : List Nat}

/-- A batch that can be read is answered in full and in the order of its records, whatever order its
calls end in and whatever the queue holds, as long as all calls have a result, as they have under
policies whose attempts and waits can be counted, and no sum of durations gets too long. Where
exchanges are published, the queue takes them in the order in which they ended, as many as there is
room for, each with headers and key of its own record; else no queue is made or changed. -/
theorem SinkTask.put_faithful
    (started : (SinkTask.start w files queues s).Gives (⟨some sink⟩, queues'))
    (decodes : List.Forall₂ Sink.Decodes records requests)
    (all : order.Perm (List.range records.length)) (st : σ) :
    let (enriched, begun) := Sink.enrichAll w sink.settings requests st
    (Sink.Uncounted sink.task (records.zip enriched) order begun ∨
      ∃ exchanges ended st', Sink.Ends sink.task (records.zip enriched) order begun ended st' ∧
        exchanges.length = records.length ∧ ended.map (·.place) = order ∧
        (∀ d ∈ ended, records[d.place]? = some d.record ∧ exchanges[d.place]? = some d.exchange) ∧
        ∀ metrics : Metrics, metrics.Room (ended.map (·.counted)) → ∃ metrics', ∀ before, ∃ after,
          ((⟨some sink⟩ : SinkTask σ).put records order ⟨before, metrics, st⟩).value =
            (.ok exchanges, ⟨after, metrics', st'⟩) ∧
          (∀ handle q, sink.queue = some handle → before.get? handle = some q →
            after = before.set handle { q with
              records := q.records ++ (ended.map (·.queued)).take (q.capacity.toNat - q.size) }) ∧
          (sink.settings.publishes = false → after = before)) ∧
      ((∀ r, (sink.task.registry.select r).policy.Fits) →
        ¬ Sink.Uncounted sink.task (records.zip enriched) order begun) ∧
      (sink.settings.publishes = true → ∃ handle, sink.queue = some handle ∧
        (queues.queue s.queueName).value = (handle, queues')) ∧
      (sink.settings.publishes = false → queues' = queues) := by
  obtain ⟨world, builtIn, silent, publishes⟩ := SinkTask.started started
  subst world
  generalize enriches : Sink.enrichAll sink.task.world sink.settings requests st = made
  obtain ⟨enriched, begun⟩ := made
  have read := Sink.readBatch_ok (w := sink.task.world) (s := sink.settings) decodes 0 st
  have length : (records.zip enriched).length = records.length := by
    have same := Sink.length_enrichAll sink.task.world sink.settings requests st
    rw [enriches, ← decodes.length_eq] at same
    simp [same]
  rw [enriches] at read
  have inside : ∀ place ∈ order, place < (records.zip enriched).length :=
    fun place member => length ▸ List.mem_range.mp (all.mem_iff.mp member)
  refine ⟨?_, Sink.not_uncounted, publishes, fun quiet => (silent quiet).2⟩
  refine (Sink.ends_of_builtIn builtIn inside begun).imp_right fun ⟨ended, st', ends⟩ => ?_
  -- every place is done once, so none is left out when the exchanges are put in order
  have places : ((Sink.done ended).map (·.1)).Perm (List.range (records.zip enriched).length) := by
    rw [Sink.map_done, ends.map_place, length]
    exact all
  refine ⟨_, ended, st', ends, (Sink.length_inOrder (Sink.complete_of_perm places)).trans length,
    ends.map_place, ?_, ?_⟩
  · intro d member
    obtain ⟨request, there⟩ := ends.record d member
    exact ⟨(List.getElem?_zip_eq_some.mp there).1,
      Sink.inOrder_of_mem places (List.mem_map_of_mem member)⟩
  · intro metrics room
    obtain ⟨metrics', puts⟩ := Sink.put_eq read ends room
    refine ⟨metrics', fun before => ⟨_, puts before, ?_, ?_⟩⟩
    · intro handle q known there
      rw [known, Sink.publishAll_some there, ExchangeQueue.run_enqueue]
    · intro quiet
      rw [(silent quiet).1, Sink.publishAll_none]

def publishing : Settings :=
  .ofList [(publishKey, "true"),
    (configurationKeys defaultConfigurationId ++ RetryPolicy.retriesKey, "0")]

def keyedRecord (key : String) : Record :=
  ⟨"requests", some key, (Request.get "http://a").text, []⟩

theorem decodes_keyedRecord (key : String) :
    Sink.Decodes (keyedRecord key) (.get "http://a") :=
  Request.decode_text (.get "http://a")

theorem SinkTask.put_faithful_turned : ∃ (sink : SinkState Nat) (queues : QueueRegistry)
    (exchanges : List Exchange),
    (SinkTask.start Retry.clockWorld .empty (.new 1) publishing).Gives (⟨some sink⟩, queues) ∧
    List.Forall₂ Sink.Decodes [keyedRecord "a", keyedRecord "b"] [.get "http://a", .get "http://a"] ∧
    [1, 0].Perm (List.range 2) ∧ exchanges.length = 2 ∧
    ∃ fx, ((⟨some sink⟩ : SinkTask Nat).put [keyedRecord "a", keyedRecord "b"] [1, 0]
        ⟨queues, .empty, 0⟩).value = (.ok exchanges, fx) ∧
      (fx.queues.get? 0).map (fun q => q.records.map (·.key)) = some [some "b"] := by
  have start : (SinkTask.start Retry.clockWorld .empty (.new 1) publishing).run.value.toOption.any
      (fun start => (start.1.state.any fun sink => sink.queue == some 0 &&
        sink.task.registry.configurations.isEmpty &&
        decide sink.task.registry.default.policy.Fits) &&
        start.2.get? 0 == some (.new "default" 1)) = true := by
    decide +kernel
  obtain ⟨⟨⟨sink⟩, queues⟩, started, run⟩ := (Option.any_eq_true ..).mp start
  simp only [Bool.and_eq_true, Option.any_eq_true, beq_iff_eq, List.isEmpty_iff,
    decide_eq_true_eq] at run
  obtain ⟨⟨sink, rfl, ⟨known, single⟩, fits⟩, there⟩ := run
  have fits : ∀ r, (sink.task.registry.select r).policy.Fits := by
    intro r
    rw [Registry.select, single]
    exact fits
  have started := Setup.gives_of_toOption started
  have decodes : List.Forall₂ Sink.Decodes [keyedRecord "a", keyedRecord "b"]
      [.get "http://a", .get "http://a"] :=
    .cons (decodes_keyedRecord "a") (.cons (decodes_keyedRecord "b") .nil)
  have turned : [1, 0].Perm (List.range 2) := .swap 0 1 []
  obtain ⟨faithful, counted, -⟩ := SinkTask.put_faithful started decodes turned 0
  obtain ⟨exchanges, ended, st, ends, length, places, own, puts⟩ :=
    faithful.resolve_left (counted fits)
  have instant : ∀ c ∈ ended.map (·.counted), c.2 = .zero := by
    intro c counted
    obtain ⟨d, member, rfl⟩ := List.mem_map.mp counted
    obtain ⟨_, _, same⟩ := ends.duration d member
    rw [Sink.Ended.counted, same, (SinkTask.started started).world]
    rfl
  have room : Metrics.empty.Room (ended.map (·.counted)) := by
    intro id
    rw [Metrics.nanosOf_eq_zero instant]
    exact Nat.zero_le _
  obtain ⟨metrics, puts⟩ := puts .empty room
  obtain ⟨after, puts, queued, -⟩ := puts queues
  refine ⟨sink, queues, exchanges, started, decodes, turned, length, _, puts, ?_⟩
  obtain ⟨d, rest, rfl, place, -⟩ := List.map_eq_cons_iff.mp places
  have record := (own d List.mem_cons_self).1
  simp only [place, List.getElem?_cons_succ, List.getElem?_cons_zero, Option.some.injEq] at record
  rw [queued 0 _ known there, QueueRegistry.get?_set there]
  change some [d.record.key] = some [some "b"]
  rw [← record]
  rfl

def waitingLong : Settings :=
  let most := "18446744073709551615"
  let key := fun key => configurationKeys defaultConfigurationId ++ key
  .ofList [(key RetryPolicy.delayKey, most), (key RetryPolicy.maxDelayKey, most),
    (key RetryPolicy.jitterKey, most)]

/-- A batch that can be read, whose only call is not answered and is to be made again after a wait
that is too long to be counted. -/
theorem SinkTask.put_uncounted : ∃ (sink : SinkState Nat) (queues : QueueRegistry),
    (SinkTask.start Retry.eagerWorld .empty (.new 1) waitingLong).Gives (⟨some sink⟩, queues) ∧
    Sink.Decodes (keyedRecord "a") (.get "http://a") ∧
    ((⟨some sink⟩ : SinkTask Nat).put [keyedRecord "a"] [0] ⟨queues, .empty, 0⟩).value.1 =
      .error .uncounted := by
  have start : (SinkTask.start Retry.eagerWorld .empty (.new 1) waitingLong).run.value.toOption.any
      (fun start => start.1.state.isSome &&
        (match (start.1.put [keyedRecord "a"] [0] ⟨start.2, .empty, 0⟩).value.1 with
        | .error .uncounted => true
        | _ => false)) = true := by
    decide +kernel
  obtain ⟨⟨⟨sink⟩, queues⟩, started, run⟩ := (Option.any_eq_true ..).mp start
  obtain ⟨there, stops⟩ := (Bool.and_eq_true_iff ..).mp run
  obtain ⟨sink, rfl⟩ := Option.isSome_iff_exists.mp there
  refine ⟨sink, queues, Setup.gives_of_toOption started, decodes_keyedRecord "a", ?_⟩
  generalize ((⟨some sink⟩ : SinkTask Nat).put [keyedRecord "a"] [0]
    ⟨queues, .empty, 0⟩).value.1 = result at stops ⊢
  split at stops
  · rfl
  · cases stops

end Put

end HttpBridge
