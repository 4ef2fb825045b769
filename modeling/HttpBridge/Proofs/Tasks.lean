import HttpBridge.Proofs.Assembly
import HttpBridge.Proofs.Retry
import HttpBridge.Proofs.Starting
import HttpBridge.Proofs.Wire

namespace HttpBridge

variable {σ : Type}

namespace Source

def record (s : SourceSettings) (r : QueueRecord) : Record :=
  ⟨topic s r.exchange, r.key, r.exchange.text, r.headers⟩

theorem records_eq_map (s : SourceSettings) (rs : List QueueRecord) :
    (records s rs).value = rs.map (record s) := by
  induction rs with
  | nil => rfl
  | cons r rs ih =>
    have first : (record? s r).value = some (record s r) := by
      unfold record?
      rw [Exchange.serialize_eq]
      rfl
    rw [records, Logged.value_bind, Logged.value_bind, first, ih]
    rfl

end Source

theorem SourceTask.poll_eq (source : SourceState) (queues : QueueRegistry) :
    ((⟨some source⟩ : SourceTask).poll queues).value =
      let (polled, queues) := queues.poll source.queue source.settings.pollBatchSize.toNat
      (some (polled.map (Source.record source.settings)), queues) := by
  unfold poll
  simp only [Logged.value_bind, Source.records_eq_map]
  split
  · rfl
  · rfl

theorem SourceSettings.queueName_ofSettings {s : Settings} {settings : SourceSettings}
    (h : ofSettings s = .ok settings) : settings.queueName = s.queueName := by
  simp only [ofSettings, bind_eq_ok] at h
  obtain ⟨_, -, h⟩ := h
  split at h
  · cases h
  · simp only [bind_eq_ok] at h
    obtain ⟨_, -, _, -, last⟩ := h
    cases last
    rfl

theorem SourceTask.start_eq {queues queues' : QueueRegistry} {s : Settings} {source : SourceState}
    (h : (start queues s).Gives (⟨some source⟩, queues')) :
    (queues.queue s.queueName).value = (source.queue, queues') := by
  have h := Start.fresh_eq_ok.mp h
  rw [restart_run, Start.settle_eq_ok] at h
  obtain ⟨_, make, h⟩ := h
  obtain ⟨settings, read, rfl⟩ := map_eq_ok.mp make
  cases h
  rw [← SourceSettings.queueName_ofSettings read]

theorem SinkSettings.queueName_ofSettings {s : Settings} {settings : SinkSettings}
    (h : ofSettings s = .ok settings) : settings.queueName = s.queueName := by
  simp only [ofSettings, bind_eq_ok] at h
  obtain ⟨_, -, _, -, _, -, _, -, last⟩ := h
  cases last
  rfl

structure SinkState.Started (sink : SinkState σ) (w : World σ) (queues : QueueRegistry)
    (s : Settings) (queues' : QueueRegistry) : Prop where
  world : sink.task.world = w
  builtIn : sink.task.registry.BuiltIn w
  silent : sink.settings.publishes = false → sink.queue = none ∧ queues' = queues
  publishes : sink.settings.publishes = true → ∃ handle, sink.queue = some handle ∧
    (queues.queue s.queueName).value = (handle, queues')

theorem SinkTask.started {w : World σ} {files : Files} {queues queues' : QueueRegistry}
    {s : Settings} {sink : SinkState σ}
    (h : (start w files queues s).Gives (⟨some sink⟩, queues')) :
    sink.Started w queues s queues' := by
  have h := Start.fresh_eq_ok.mp h
  rw [restart_run, Start.settle_eq_ok] at h
  obtain ⟨_, make, h⟩ := h
  obtain ⟨⟨settings, registry⟩, read, rfl⟩ := map_eq_ok.mp make
  obtain ⟨read, built⟩ := Sink.read_eq_ok.mp read
  have builtIn := Registry.ofSettings_builtIn built
  unfold made at h
  split at h
  · rename_i publishes
    cases h
    rw [SinkSettings.queueName_ofSettings read]
    exact ⟨rfl, builtIn, fun silent => (nomatch publishes.symm.trans silent),
      fun _ => ⟨_, rfl, rfl⟩⟩
  · rename_i silent
    cases h
    exact ⟨rfl, builtIn, fun _ => ⟨rfl, rfl⟩, fun publishes => absurd publishes silent⟩

theorem HttpTask.call_result {t : HttpTask σ} {r : Request} {st : σ}
    {result : Except ExchangeFault Exchange} (h : (t.call r st).value.result = some result) :
    ∃ attempt st', result = ((t.registry.select r).client.call r attempt st').value.1 := by
  unfold call at h
  simp only [Logged.value_bind] at h
  exact Retry.run_result h

namespace Sink

theorem filterMap_place {α β : Type} {f : α → Option β} {l : List α}
    (complete : ∀ a ∈ l, (f a).isSome) (i : Nat) : (l.filterMap f)[i]? = l[i]?.bind f := by
  induction l generalizing i with
  | nil => rfl
  | cons a l ih =>
    obtain ⟨b, hb⟩ := Option.isSome_iff_exists.mp (complete a List.mem_cons_self)
    rw [List.filterMap_cons_some hb]
    cases i with
    | zero => exact hb.symm
    | succ i => exact ih (fun a member => complete a (List.mem_cons_of_mem _ member)) i

section Order

variable {count : Nat} {done : List (Nat × Exchange)}

theorem inOrder_place (complete : ∀ place < count, (done.lookup place).isSome) {place : Nat}
    (h : place < count) : (inOrder count done)[place]? = done.lookup place := by
  have all : ∀ place ∈ List.range count, (done.lookup place).isSome :=
    fun place member => complete place (List.mem_range.mp member)
  rw [inOrder, filterMap_place all, List.getElem?_range h]
  rfl

theorem length_inOrder (complete : ∀ place < count, (done.lookup place).isSome) :
    (inOrder count done).length = count := by
  have all : ∀ place ∈ List.range count, (done.lookup place).isSome :=
    fun place member => complete place (List.mem_range.mp member)
  rw [inOrder, List.filterMap_length_eq_length.mpr all, List.length_range]

theorem lookup_of_mem (distinct : (done.map (·.1)).Nodup) {place : Nat} {e : Exchange}
    (member : (place, e) ∈ done) : done.lookup place = some e := by
  induction done with
  | nil => cases member
  | cons first rest ih =>
    obtain ⟨fresh, distinct⟩ := List.nodup_cons.mp distinct
    rw [List.lookup_cons]
    rcases List.mem_cons.mp member with rfl | member
    · simp
    · have ne : place ≠ first.1 := fun same => fresh (List.mem_map.mpr ⟨_, member, same⟩)
      rw [beq_false_of_ne ne]
      exact ih distinct member

variable (all : (done.map (·.1)).Perm (List.range count))

include all

theorem complete_of_perm : ∀ place < count, (done.lookup place).isSome := by
  intro place within
  obtain ⟨entry, there, rfl⟩ := List.mem_map.mp (all.mem_iff.mpr (List.mem_range.mpr within))
  exact List.lookup_isSome_iff.mpr ⟨entry, there, beq_self_eq_true _⟩

theorem inOrder_of_mem {place : Nat} {e : Exchange} (member : (place, e) ∈ done) :
    (inOrder count done)[place]? = some e := by
  have within := List.mem_range.mp (all.mem_iff.mp (List.mem_map_of_mem member))
  rw [inOrder_place (complete_of_perm all) within]
  exact lookup_of_mem (all.nodup_iff.mpr List.nodup_range) member

end Order

theorem complete_error {sink : SinkState σ} {job : Job} {fx fx' : Effects σ} {f : SinkFault}
    (h : (complete sink job fx).value = (.error f, fx')) : fx'.queues = fx.queues := by
  unfold complete at h
  simp only [Logged.value_bind] at h
  split at h
  · cases h
    rfl
  · split at h <;> cases h <;> rfl

theorem complete_ok {sink : SinkState σ} {job : Job} {fx fx' : Effects σ} {e : Exchange}
    (h : (complete sink job fx).value = (.ok e, fx')) :
    fx'.queues = (publish sink.queue job.1 e fx.queues).value ∧
      (sink.task.registry.BuiltIn sink.task.world → e.Sound) := by
  unfold complete at h
  simp only [Logged.value_bind] at h
  split at h
  · cases h
  · rename_i result given
    split at h
    · cases h
    · cases h
    · cases h
      refine ⟨rfl, fun builtIn => ?_⟩
      obtain ⟨attempt, st, same⟩ := HttpTask.call_result given
      exact (builtIn job.2).sound same.symm

end Sink

end HttpBridge
