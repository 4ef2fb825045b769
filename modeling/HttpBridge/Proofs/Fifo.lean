import HttpBridge.Queue

namespace HttpBridge.ExchangeQueue

inductive Call
  | enqueue (record : QueueRecord)
  | poll (most : Nat)

inductive Reply
  | taken
  | refused (f : QueueFull)
  | polled (records : List QueueRecord)

def answer (q : ExchangeQueue) : Call → Reply × ExchangeQueue
  | .enqueue record =>
    match q.enqueue record with
    | .ok q => (.taken, q)
    | .error f => (.refused f, q)
  | .poll most =>
    let (records, q) := q.poll most
    (.polled records, q)

def run (q : ExchangeQueue) : List Call → List (Call × Reply) × ExchangeQueue
  | [] => ([], q)
  | call :: calls =>
    let (reply, q) := q.answer call
    let (events, q) := q.run calls
    ((call, reply) :: events, q)

def acceptedBy : Call × Reply → List QueueRecord
  | (.enqueue record, .taken) => [record]
  | _ => []

def polledBy : Call × Reply → List QueueRecord
  | (_, .polled records) => records
  | _ => []

def accepted (events : List (Call × Reply)) : List QueueRecord :=
  events.flatMap acceptedBy

def polled (events : List (Call × Reply)) : List QueueRecord :=
  events.flatMap polledBy

variable {q : ExchangeQueue} {record : QueueRecord}

theorem answer_enqueue_of_room (room : q.size < q.capacity.toNat) :
    q.answer (.enqueue record) = (.taken, { q with records := q.records ++ [record] }) := by
  simp only [answer, enqueue, if_pos room]

theorem answer_enqueue_of_full (full : ¬ q.size < q.capacity.toNat) :
    q.answer (.enqueue record) = (.refused ⟨q.name, q.capacity, record⟩, q) := by
  simp only [answer, enqueue, if_neg full]

structure Bounded (name : String) (capacity : UInt64) (q : ExchangeQueue) : Prop where
  named : q.name = name
  holds : q.capacity = capacity
  within : q.size ≤ capacity.toNat

theorem answer_bounded {name : String} {capacity : UInt64} (h : q.Bounded name capacity)
    (call : Call) : (q.answer call).2.Bounded name capacity := by
  cases call with
  | enqueue record =>
    by_cases room : q.size < q.capacity.toNat
    · rw [answer_enqueue_of_room room]
      refine ⟨h.named, h.holds, ?_⟩
      rw [← h.holds, size, List.length_append]
      exact room
    · rw [answer_enqueue_of_full room]
      exact h
  | poll most =>
    refine ⟨h.named, h.holds, Nat.le_trans ?_ h.within⟩
    exact (List.drop_sublist most q.records).length_le

theorem answer_conserves (q : ExchangeQueue) (call : Call) :
    q.records ++ acceptedBy (call, (q.answer call).1) =
      polledBy (call, (q.answer call).1) ++ (q.answer call).2.records := by
  cases call with
  | enqueue record =>
    by_cases room : q.size < q.capacity.toNat
    · rw [answer_enqueue_of_room room]
      rfl
    · rw [answer_enqueue_of_full room]
      exact List.append_nil _
  | poll most => exact (List.append_nil _).trans (List.take_append_drop most q.records).symm

theorem run_bounded {name : String} {capacity : UInt64} (h : q.Bounded name capacity)
    (calls : List Call) : (q.run calls).2.Bounded name capacity := by
  induction calls generalizing q with
  | nil => exact h
  | cons call calls ih => exact ih (answer_bounded h call)

theorem run_conserves (q : ExchangeQueue) (calls : List Call) :
    q.records ++ accepted (q.run calls).1 = polled (q.run calls).1 ++ (q.run calls).2.records := by
  induction calls generalizing q with
  | nil => exact List.append_nil _
  | cons call calls ih =>
    have step := answer_conserves q call
    have rest := ih (q.answer call).2
    simp only [run, accepted, polled, List.flatMap_cons] at rest ⊢
    rw [← List.append_assoc, step, List.append_assoc, rest, List.append_assoc]

theorem run_enqueue (q : ExchangeQueue) (records : List QueueRecord) :
    (q.run (records.map .enqueue)).2 =
      { q with records := q.records ++ records.take (q.capacity.toNat - q.size) } := by
  induction records generalizing q with
  | nil => simp [run]
  | cons record records ih =>
    rw [List.map_cons, run]
    by_cases room : q.size < q.capacity.toNat
    · have size : ({ q with records := q.records ++ [record] } : ExchangeQueue).size = q.size + 1 :=
        List.length_append
      have left : q.capacity.toNat - q.size = q.capacity.toNat - (q.size + 1) + 1 := by omega
      rw [answer_enqueue_of_room room, ih, size, left, List.take_succ_cons, List.append_assoc]
      rfl
    · rw [answer_enqueue_of_full room, ih, Nat.sub_eq_zero_of_le (Nat.not_lt.mp room)]
      rfl

/-- However calls follow one another, a queue that was empty at first holds no more than its
capacity, and what was polled and then what is left is what was accepted, in order. It takes a
record just if it has room, and else gives the very record back and stays as it is; a poll gives the
oldest records, as many as are asked for and there. -/
theorem run_bounded_fifo (name : String) (capacity : UInt64) (calls : List Call) :
    let (events, q) := (new name capacity).run calls
    q.size ≤ capacity.toNat ∧
    polled events ++ q.records = accepted events ∧
    (∀ record, if q.size < capacity.toNat
      then q.answer (.enqueue record) = (.taken, { q with records := q.records ++ [record] })
      else q.answer (.enqueue record) = (.refused ⟨name, capacity, record⟩, q)) ∧
    ∀ most, ∃ oldest rest, q.answer (.poll most) = (.polled oldest, { q with records := rest }) ∧
      q.records = oldest ++ rest ∧ oldest.length = min most q.size := by
  have bounded := run_bounded ⟨rfl, rfl, Nat.zero_le _⟩ calls (q := new name capacity)
  have conserves := run_conserves (new name capacity) calls
  revert bounded conserves
  generalize (new name capacity).run calls = ran
  obtain ⟨events, q⟩ := ran
  intro bounded conserves
  refine ⟨bounded.within, conserves.symm.trans (List.nil_append _), ?_, ?_⟩
  · intro record
    obtain ⟨rfl, rfl, -⟩ := bounded
    split
    · rename_i room
      exact answer_enqueue_of_room room
    · rename_i full
      exact answer_enqueue_of_full full
  · intro most
    exact ⟨q.records.take most, q.records.drop most, rfl, (List.take_append_drop ..).symm,
      List.length_take⟩

end HttpBridge.ExchangeQueue
