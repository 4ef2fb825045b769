import HttpBridge.Proofs.Bridge.System
import HttpBridge.Proofs.Queue

namespace HttpBridge.Bridge

variable {σ : Type}

structure Tells (p : Polled) (a : Accepted) : Prop where
  key : p.record.key = a.record.key
  headers : p.record.headers = a.record.headers
  topic : p.record.topic =
    if a.exchange.success then p.settings.successTopic else p.settings.errorTopic
  value : Exchange.decode p.record.value = .ok a.exchange

theorem tells_record {a : Accepted} (sound : a.exchange.Sound) (settings : SourceSettings) :
    Tells ⟨settings, Source.record settings a.queued⟩ a :=
  ⟨rfl, rfl, rfl, Exchange.decode_text_of_regular sound.regular⟩

def Has (name : String) (queues : QueueRegistry) (sink : SinkState σ) : Prop :=
  sink.task.registry.BuiltIn sink.task.world ∧
    ∀ handle, sink.queue = some handle → queues.names.find? name = some handle

structure Kept (name : String) (s : State σ) : Prop where
  sound : s.fx.queues.Sound name
  sinks : ∀ sink ∈ s.sinks, Has name s.fx.queues sink
  batches : ∀ b ∈ s.batches, Has name s.fx.queues b.sink
  sources : ∀ source ∈ s.sources, s.fx.queues.names.find? name = some source.queue
  length : s.polled.length ≤ s.accepted.length
  content : s.fx.queues.content name = (s.accepted.drop s.polled.length).map Accepted.queued
  polled : ∀ (i : Nat) (p : Polled), s.polled[i]? = some p →
    ∃ a, s.accepted[i]? = some a ∧ Tells p a
  exchanges : ∀ a ∈ s.accepted, a.exchange.Sound

section Kept

variable {name : String} {s : State σ}

theorem Has.mono {queues queues' : QueueRegistry} {sink : SinkState σ} (has : Has name queues sink)
    (h : ∀ handle, queues.names.find? name = some handle →
      queues'.names.find? name = some handle) : Has name queues' sink :=
  ⟨has.1, fun handle known => h handle (has.2 handle known)⟩

theorem kept_start (capacity : UInt64) (metrics : Metrics) (state : σ) :
    Kept name (.start capacity metrics state) where
  sound := QueueRegistry.sound_new capacity name
  sinks _ member := nomatch member
  batches _ member := nomatch member
  sources _ member := nomatch member
  length := Nat.le_refl _
  content := rfl
  polled i p known := by simp [State.start] at known
  exchanges _ member := nomatch member

theorem Kept.known (queues : QueueRegistry) (kept : Kept name s)
    (known : ∀ handle, s.fx.queues.names.find? name = some handle →
      queues.names.find? name = some handle) :
    (∀ sink ∈ s.sinks, Has name queues sink) ∧ (∀ b ∈ s.batches, Has name queues b.sink) ∧
      ∀ source ∈ s.sources, queues.names.find? name = some source.queue :=
  ⟨fun sink member => (kept.sinks sink member).mono known,
    fun b member => (kept.batches b member).mono known,
    fun source member => known _ (kept.sources source member)⟩

theorem Kept.queues {queues : QueueRegistry} (kept : Kept name s) (sound : queues.Sound name)
    (known : ∀ handle, s.fx.queues.names.find? name = some handle →
      queues.names.find? name = some handle)
    (content : queues.content name = s.fx.queues.content name) :
    Kept name { s with fx := { s.fx with queues } } := by
  obtain ⟨sinks, batches, sources⟩ := kept.known queues known
  exact { kept with sound, sinks, batches, sources, content := content.trans kept.content }

theorem Kept.find {handle : QueueHandle} {queues : QueueRegistry} (kept : Kept name s)
    (found : (s.fx.queues.queue name).value = (handle, queues)) :
    Kept name { s with fx := { s.fx with queues } } := by
  obtain ⟨now, before⟩ := QueueRegistry.queue_find found
  apply kept.queues (QueueRegistry.queue_sound found kept.sound) ?_
    (QueueRegistry.queue_content found)
  intro other known
  exact (before other known) ▸ now

theorem Kept.startSink {sink : SinkState σ} (kept : Kept name s) (has : Has name s.fx.queues sink) :
    Kept name { s with sinks := sink :: s.sinks } := by
  refine { kept with sinks := fun other member => ?_ }
  rcases List.mem_cons.mp member with rfl | member
  · exact has
  · exact kept.sinks other member

theorem Kept.startSource {source : SourceState} (kept : Kept name s)
    (has : s.fx.queues.names.find? name = some source.queue) :
    Kept name { s with sources := source :: s.sources } := by
  refine { kept with sources := fun other member => ?_ }
  rcases List.mem_cons.mp member with rfl | member
  · exact has
  · exact kept.sources other member

theorem Kept.withBatches {batches : List (Batch σ)} (kept : Kept name s)
    (h : ∀ b ∈ batches, ∃ b' ∈ s.batches, b.sink = b'.sink) :
    Kept name { s with batches } := by
  refine { kept with batches := fun b member => ?_ }
  obtain ⟨b', member', same⟩ := h b member
  exact same ▸ kept.batches b' member'

theorem Kept.take {b : Batch σ} {e : Exchange} (kept : Kept name s) (place : Nat) (r : Record)
    (has : Has name s.fx.queues b.sink)
    (exchange : e.Sound) :
    Kept name { s with
      fx := { s.fx with queues := (Sink.publish b.sink.queue r e s.fx.queues).value }
      accepted := s.accepted ++ b.taken place r e s.fx.queues } := by
  rcases publish_cases b place r e s.fx.queues with
    ⟨nothing, same⟩ | ⟨handle, queues, queue, result, takes, next⟩
  · rw [nothing, same, List.append_nil]
    exact kept
  · obtain ⟨names, sound, content⟩ :=
      QueueRegistry.enqueue_ok (has.2 handle queue) kept.sound result
    obtain ⟨sinks, batches, sources⟩ := kept.known queues fun _ before => names ▸ before
    rw [takes, next]
    exact {
      sound, sinks, batches, sources
      length := by
        rw [List.length_append]
        exact Nat.le_trans kept.length (Nat.le_add_right ..)
      content := by
        rw [content, kept.content, List.drop_append_of_le_length kept.length, List.map_append]
        rfl
      polled := fun i p polled => by
        obtain ⟨a, there, tells⟩ := kept.polled i p polled
        obtain ⟨inside, -⟩ := List.getElem?_eq_some_iff.mp there
        exact ⟨a, (List.getElem?_append_left inside).trans there, tells⟩
      exchanges := fun a member => by
        rcases List.mem_append.mp member with member | member
        · exact kept.exchanges a member
        · cases List.mem_singleton.mp member
          exact exchange }

theorem Kept.poll {source : SourceState} {records : List Record} {queues : QueueRegistry}
    (kept : Kept name s) (started : source ∈ s.sources)
    (polls : ((⟨some source⟩ : SourceTask).poll s.fx.queues).value = (some records, queues)) :
    Kept name { s with
      fx := { s.fx with queues }
      polled := s.polled ++ records.map (⟨source.settings, ·⟩) } := by
  rw [SourceTask.poll_eq] at polls
  generalize taken : s.fx.queues.poll source.queue source.settings.pollBatchSize.toNat = result
    at polls
  obtain ⟨polled, _⟩ := result
  cases polls
  obtain ⟨names, sound, first, rest⟩ :=
    QueueRegistry.poll_content (kept.sources source started) kept.sound taken
  obtain ⟨sinks, batches, sources⟩ := kept.known queues fun _ before => names ▸ before
  -- what was polled before is a prefix of what was taken, and this poll goes on right after it
  have all : (s.accepted.drop s.polled.length).map Accepted.queued =
      polled ++ queues.content name := by
    rw [← kept.content, first, rest, List.take_append_drop]
  have length := congrArg List.length all
  simp only [List.length_append, List.length_map, List.length_drop] at length
  have within := kept.length
  exact {
    sound, sinks, batches, sources
    length := by
      simp only [List.length_append, List.length_map]
      omega
    content := by
      have left : (polled ++ queues.content name).drop polled.length = queues.content name :=
        List.drop_left
      rw [← left, ← all, ← List.map_drop, List.drop_drop]
      simp
    polled := fun i p known => by
      rw [List.getElem?_append] at known
      split at known
      · exact kept.polled i p known
      · rename_i later
        simp only [List.getElem?_map, Option.map_map, Option.map_eq_some_iff] at known
        obtain ⟨r, there, rfl⟩ := known
        have next : ((s.accepted.drop s.polled.length).map Accepted.queued)[i - s.polled.length]? =
            some r := by
          obtain ⟨inside, -⟩ := List.getElem?_eq_some_iff.mp there
          rw [all, List.getElem?_append_left inside, there]
        rw [List.getElem?_map, List.getElem?_drop, Option.map_eq_some_iff] at next
        obtain ⟨a, taken, rfl⟩ := next
        have place : s.polled.length + (i - s.polled.length) = i := by omega
        have sound := kept.exchanges a (List.mem_of_mem_drop (List.mem_of_getElem? (by
          rw [List.getElem?_drop]
          exact taken)))
        exact ⟨a, place ▸ taken, tells_record sound source.settings⟩
    exchanges := kept.exchanges }

theorem Kept.surroundings (kept : Kept name s) (metrics : Metrics) (state : σ) :
    Kept name { s with fx := ⟨s.fx.queues, metrics, state⟩ } :=
  { kept with }

theorem Kept.without {before after : List (Batch σ)} {b : Batch σ} (kept : Kept name s)
    (running : s.batches = before ++ b :: after) :
    Kept name { s with batches := before ++ after } := by
  apply kept.withBatches
  intro other member
  refine ⟨other, ?_, rfl⟩
  rw [running]
  rcases List.mem_append.mp member with member | member
  · exact List.mem_append_left _ member
  · exact List.mem_append_right _ (List.mem_cons_of_mem _ member)

theorem step_kept {s' : State σ} (step : Step name s s') (kept : Kept name s) : Kept name s' := by
  cases step with
  | @startSink _ _ settings sink queues named started =>
    have starts := SinkTask.started started
    have builtIn : sink.task.registry.BuiltIn sink.task.world := starts.world ▸ starts.builtIn
    cases publishes : sink.settings.publishes with
    | false =>
      obtain ⟨none, rfl⟩ := starts.silent publishes
      exact kept.startSink ⟨builtIn, fun handle known => by simp [none] at known⟩
    | true =>
      obtain ⟨handle, some, found⟩ := starts.publishes publishes
      rw [named] at found
      apply (kept.find found).startSink
      refine ⟨builtIn, fun other known => ?_⟩
      obtain rfl : handle = other := Option.some.inj (some.symm.trans known)
      exact (QueueRegistry.queue_find found).1
  | startSource named started =>
    have found := SourceTask.start_eq started
    rw [named] at found
    exact (kept.find found).startSource (QueueRegistry.queue_find found).1
  | @put sink _ jobs state started read =>
    have begun := (kept.surroundings (jobs.foldl (fun m job => sink.task.begin m job.2)
      s.fx.metrics) state)
    refine { begun with batches := fun b member => ?_ }
    rcases List.mem_cons.mp member with rfl | member
    · exact kept.sinks sink started
    · exact kept.batches b member
  | @complete before after b place job e fx running there due completes =>
    -- the queue first, then the counts, and the batch with its new entry last
    obtain ⟨queues, exchange⟩ := Sink.complete_ok completes
    have member : b ∈ s.batches := running ▸ List.mem_append_right _ List.mem_cons_self
    have has := kept.batches b member
    have taken := (kept.take place job.1 has (exchange has.1)).surroundings
      fx.metrics fx.state
    rw [← queues] at taken
    apply taken.withBatches
    intro other member
    rcases mem_of_replaced member with rfl | old
    · exact ⟨b, running ▸ List.mem_append_right _ List.mem_cons_self, rfl⟩
    · exact ⟨other, running ▸ old, rfl⟩
  | @fail before after b place job f fx running there fails =>
    have ended := (kept.surroundings fx.metrics fx.state).without running
    rw [← Sink.complete_error fails] at ended
    exact ended
  | abandon running => exact kept.without running
  | answer running complete => exact { kept.without running with }
  | poll started polls => exact kept.poll started polls
  | surroundings metrics state => exact kept.surroundings metrics state

end Kept

theorem Reachable.kept {name : String} {s : State σ} (h : Reachable name s) : Kept name s := by
  induction h with
  | start capacity metrics state => exact kept_start capacity metrics state
  | next _ step ih => exact step_kept step ih

theorem Kept.topic {name : String} {s : State σ} (kept : Kept name s) {p : Polled} {a : Accepted}
    (taken : a ∈ s.accepted) (tells : Tells p a)
    (failed : a.exchange.response.isTransportFailure = true) :
    p.record.topic = p.settings.errorTopic := by
  rw [tells.topic, (kept.exchanges a taken).failed failed]
  rfl

theorem Kept.conserves {name : String} {s : State σ} (kept : Kept name s) :
    s.polled.map (fun p => Exchange.decode p.record.value) ++
        (s.fx.queues.content name).map (fun r => .ok r.exchange) =
      s.accepted.map fun a => .ok a.exchange := by
  have front : s.polled.map (fun p => Exchange.decode p.record.value) =
      (s.accepted.take s.polled.length).map fun a => .ok a.exchange := by
    -- place by place, as `Kept.polled` speaks of single places
    apply List.ext_getElem?
    intro i
    rw [List.getElem?_map, List.getElem?_map, List.getElem?_take]
    cases there : s.polled[i]? with
    | none =>
      rw [if_neg (Nat.not_lt.mpr (List.getElem?_eq_none_iff.mp there))]
      rfl
    | some p =>
      obtain ⟨a, taken, tells⟩ := kept.polled i p there
      obtain ⟨inside, -⟩ := List.getElem?_eq_some_iff.mp there
      rw [if_pos inside, taken, Option.map_some, tells.value, Option.map_some]
  have back : (s.fx.queues.content name).map (fun r => Except.ok r.exchange) =
      (s.accepted.drop s.polled.length).map fun a => Except.ok (ε := Json.Fault) a.exchange := by
    rw [kept.content, List.map_map]
    rfl
  rw [front, back, ← List.map_append, List.take_append_drop]

theorem Kept.poll_length {name : String} {s : State σ} (kept : Kept name s) {source : SourceState}
    (started : source ∈ s.sources) : ∃ records queues,
      ((⟨some source⟩ : SourceTask).poll s.fx.queues).value = (some records, queues) ∧
        records.length + (queues.content name).length = (s.fx.queues.content name).length := by
  cases taken : s.fx.queues.poll source.queue source.settings.pollBatchSize.toNat with
  | mk polled queues =>
    obtain ⟨-, -, first, rest⟩ :=
      QueueRegistry.poll_content (kept.sources source started) kept.sound taken
    refine ⟨polled.map (Source.record source.settings), queues, ?_, ?_⟩
    · rw [SourceTask.poll_eq, taken]
    · rw [List.length_map, first, rest, ← List.length_append, List.take_append_drop]

end HttpBridge.Bridge
