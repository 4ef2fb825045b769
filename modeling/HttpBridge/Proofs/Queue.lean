import HttpBridge.Queue

namespace HttpBridge.QueueRegistry

variable {r : QueueRegistry} {name : String} {handle : QueueHandle}

def Sound (r : QueueRegistry) (name : String) : Prop :=
  ∀ handle, r.names.find? name = some handle → ∃ q, r.get? handle = some q

def content (r : QueueRegistry) (name : String) : List QueueRecord :=
  match r.names.find? name with
  | some handle => ((r.get? handle).map (·.records)).getD []
  | none => []

theorem content_eq {q : ExchangeQueue} (known : r.names.find? name = some handle)
    (there : r.get? handle = some q) : r.content name = q.records := by
  simp [content, known, there]

theorem sound_new (capacity : UInt64) (name : String) : (new capacity).Sound name :=
  fun _ known => nomatch known

theorem get?_set {q q' : ExchangeQueue} (there : r.get? handle = some q) :
    (r.set handle q').get? handle = some q' := by
  obtain ⟨inside, -⟩ := List.getElem?_eq_some_iff.mp there
  exact List.getElem?_set_self inside

theorem get?_set_of_ne {other : QueueHandle} (ne : other ≠ handle) (q : ExchangeQueue) :
    (r.set handle q).get? other = r.get? other :=
  List.getElem?_set_ne ne.symm

theorem set_get? {q : ExchangeQueue} (there : r.get? handle = some q) : r.set handle q = r := by
  obtain ⟨inside, same⟩ := List.getElem?_eq_some_iff.mp there
  simp [set, ← same]

@[simp] theorem set_set (r : QueueRegistry) (handle : QueueHandle) (q q' : ExchangeQueue) :
    (r.set handle q).set handle q' = r.set handle q' := by
  simp [set]

section Find

variable {r' : QueueRegistry}

theorem queue_known (known : r.names.find? name = some handle) :
    (r.queue name).value = (handle, r) := by
  simp [queue, known]

theorem queue_unknown (unknown : r.names.find? name = none) :
    (r.queue name).value = (r.queues.length,
      ⟨r.capacity, r.queues ++ [.new name r.capacity], r.names.insert name r.queues.length⟩) := by
  simp [queue, unknown, add]

theorem queue_find (h : (r.queue name).value = (handle, r')) :
    r'.names.find? name = some handle ∧
      (∀ other, r.names.find? name = some other → other = handle) := by
  cases known : r.names.find? name with
  | some other =>
    rw [queue_known known, Prod.mk.injEq] at h
    obtain ⟨rfl, rfl⟩ := h
    exact ⟨known, fun _ same => (Option.some.inj same).symm⟩
  | none =>
    rw [queue_unknown known, Prod.mk.injEq] at h
    obtain ⟨rfl, rfl⟩ := h
    exact ⟨Dict.find?_insert .., nofun⟩

theorem queue_content (h : (r.queue name).value = (handle, r')) :
    r'.content name = r.content name := by
  cases known : r.names.find? name with
  | some other =>
    rw [queue_known known, Prod.mk.injEq] at h
    rw [h.2]
  | none =>
    rw [queue_unknown known, Prod.mk.injEq] at h
    obtain ⟨-, rfl⟩ := h
    simp [content, known, Dict.find?_insert, get?, ExchangeQueue.new]

theorem queue_sound (h : (r.queue name).value = (handle, r')) (sound : r.Sound name) :
    r'.Sound name := by
  cases known : r.names.find? name with
  | some other =>
    rw [queue_known known, Prod.mk.injEq] at h
    exact h.2 ▸ sound
  | none =>
    rw [queue_unknown known, Prod.mk.injEq] at h
    obtain ⟨-, rfl⟩ := h
    intro other same
    obtain rfl : r.queues.length = other := Option.some.inj ((Dict.find?_insert ..).symm.trans same)
    exact ⟨.new name r.capacity, by simp [get?]⟩

end Find

theorem set_sound {q : ExchangeQueue} (known : r.names.find? name = some handle)
    (sound : r.Sound name) : (r.set handle q).Sound name := by
  intro other same
  obtain rfl : handle = other := Option.some.inj (known.symm.trans same)
  obtain ⟨_, there⟩ := sound handle known
  exact ⟨q, get?_set there⟩

section Enqueue

variable {r' : QueueRegistry} {record : QueueRecord}

theorem enqueue_ok (known : r.names.find? name = some handle) (sound : r.Sound name)
    (h : (r.enqueue handle record).value = .ok r') :
    r'.names = r.names ∧ r'.Sound name ∧ r'.content name = r.content name ++ [record] := by
  obtain ⟨q, there⟩ := sound handle known
  unfold enqueue at h
  simp only [there] at h
  unfold ExchangeQueue.enqueue at h
  split at h
  · rename_i q' taken
    split at taken
    · cases taken
      cases h
      refine ⟨rfl, set_sound known sound, ?_⟩
      rw [content_eq known there]
      exact content_eq (r := r.set handle _) known (get?_set there)
    · cases taken
  · cases h

end Enqueue

theorem poll_content {r' : QueueRegistry} {most : Nat} {records : List QueueRecord}
    (known : r.names.find? name = some handle) (sound : r.Sound name)
    (h : r.poll handle most = (records, r')) :
    r'.names = r.names ∧ r'.Sound name ∧ records = (r.content name).take most ∧
      r'.content name = (r.content name).drop most := by
  obtain ⟨q, there⟩ := sound handle known
  unfold poll at h
  simp only [there, ExchangeQueue.poll, Prod.mk.injEq] at h
  obtain ⟨rfl, rfl⟩ := h
  rw [content_eq known there]
  exact ⟨rfl, set_sound known sound, rfl,
    content_eq (r := r.set handle _) known (get?_set there)⟩

end HttpBridge.QueueRegistry
