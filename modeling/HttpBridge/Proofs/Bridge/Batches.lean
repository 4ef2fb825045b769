import HttpBridge.Proofs.Bridge.System
import Mathlib.Data.List.Nodup

namespace HttpBridge.Bridge

variable {σ : Type}

structure Matched (s : State σ) : Prop where
  distinct : (s.batches.map (·.number)).Nodup
  begun : ∀ b ∈ s.batches, b.number < s.begun
  answered : ∀ answer ∈ s.answers, answer.batch < s.begun
  closed : ∀ answer ∈ s.answers, ∀ b ∈ s.batches, answer.batch ≠ b.number
  accepted : ∀ a ∈ s.accepted, a.batch < s.begun
  once : s.accepted.Pairwise fun a a' => (a.batch, a.place) ≠ (a'.batch, a'.place)
  done : ∀ b ∈ s.batches, ∀ a ∈ s.accepted, a.batch = b.number →
    (b.jobs[a.place]?).map (·.1) = some a.record ∧ b.done.lookup a.place = some a.exchange
  answers : ∀ answer ∈ s.answers, ∀ a ∈ s.accepted, a.batch = answer.batch →
    answer.records[a.place]? = some a.record ∧ answer.exchanges[a.place]? = some a.exchange

section Matched

variable {name : String} {s : State σ}

theorem matched_start (capacity : UInt64) (metrics : Metrics) (state : σ) :
    Matched (.start capacity metrics state) where
  distinct := .nil
  begun _ member := nomatch member
  answered _ member := nomatch member
  closed _ member := nomatch member
  accepted _ member := nomatch member
  once := .nil
  done _ member := nomatch member
  answers _ member := nomatch member

structure Batch.GoesOn (b b' : Batch σ) : Prop where
  number : b'.number = b.number
  jobs : b'.jobs = b.jobs
  done : ∀ place e, b.done.lookup place = some e → b'.done.lookup place = some e

theorem Batch.GoesOn.refl (b : Batch σ) : b.GoesOn b :=
  ⟨rfl, rfl, fun _ _ => id⟩

theorem Batch.goesOn_append (b : Batch σ) (done : List (Nat × Exchange)) :
    b.GoesOn { b with done := b.done ++ done } :=
  ⟨rfl, rfl, fun _ _ there => by rw [List.lookup_append, there, Option.some_or]⟩

theorem Matched.withBatches {batches : List (Batch σ)} (matched : Matched s)
    (distinct : (batches.map (·.number)).Nodup)
    (old : ∀ b' ∈ batches, ∃ b ∈ s.batches, b.GoesOn b') : Matched { s with batches } := by
  refine { matched with distinct, begun := ?begun, closed := ?closed, done := ?done }
  case begun =>
    intro b' member
    obtain ⟨b, running, on⟩ := old b' member
    exact on.number ▸ matched.begun b running
  case closed =>
    intro answer given b' member
    obtain ⟨b, running, on⟩ := old b' member
    exact on.number ▸ matched.closed answer given b running
  case done =>
    intro b' member a taken same
    obtain ⟨b, running, on⟩ := old b' member
    obtain ⟨record, exchange⟩ := matched.done b running a taken (same.trans on.number)
    exact ⟨on.jobs ▸ record, on.done _ _ exchange⟩

theorem Matched.without {before after : List (Batch σ)} {b : Batch σ} (matched : Matched s)
    (running : s.batches = before ++ b :: after) :
    Matched { s with batches := before ++ after } := by
  have fewer : (before ++ after).Sublist s.batches := by
    rw [running]
    exact (List.sublist_cons_self b after).append_left before
  exact matched.withBatches (matched.distinct.sublist (fewer.map _)) fun other member =>
    ⟨other, fewer.subset member, .refl other⟩

theorem Matched.put {sink : SinkState σ} {jobs : List Sink.Job} (matched : Matched s) :
    Matched { s with begun := s.begun + 1, batches := ⟨s.begun, sink, jobs, []⟩ :: s.batches } where
  distinct := by
    rw [List.map_cons, List.nodup_cons]
    refine ⟨fun member => ?_, matched.distinct⟩
    obtain ⟨b, there, same⟩ := List.mem_map.mp member
    exact Nat.ne_of_lt (matched.begun b there) same
  begun b member := by
    rcases List.mem_cons.mp member with rfl | member
    · exact Nat.lt_succ_self _
    · exact Nat.lt_succ_of_lt (matched.begun b member)
  answered answer given := Nat.lt_succ_of_lt (matched.answered answer given)
  closed answer given b member := by
    rcases List.mem_cons.mp member with rfl | member
    · exact Nat.ne_of_lt (matched.answered answer given)
    · exact matched.closed answer given b member
  accepted a taken := Nat.lt_succ_of_lt (matched.accepted a taken)
  once := matched.once
  -- the number is new, so nothing was taken for it yet
  done b member a taken same := by
    rcases List.mem_cons.mp member with rfl | member
    · exact absurd same (Nat.ne_of_lt (matched.accepted a taken))
    · exact matched.done b member a taken same
  answers := matched.answers

theorem Matched.others {before after : List (Batch σ)} {b : Batch σ} (matched : Matched s)
    (running : s.batches = before ++ b :: after) :
    ∀ other ∈ before ++ after, b.number ≠ other.number := by
  intro other member same
  have distinct := matched.distinct
  rw [running, (List.perm_middle.map _).nodup_iff, List.map_cons, List.nodup_cons] at distinct
  exact distinct.1 (List.mem_map.mpr ⟨other, member, same.symm⟩)

theorem Matched.accept {b : Batch σ} {a : Accepted} (matched : Matched s) (running : b ∈ s.batches)
    (own : a.batch = b.number) (record : (b.jobs[a.place]?).map (·.1) = some a.record)
    (exchange : b.done.lookup a.place = some a.exchange)
    (fresh : ∀ old ∈ s.accepted, (old.batch, old.place) ≠ (a.batch, a.place)) :
    Matched { s with accepted := s.accepted ++ [a] } := by
  refine { matched with accepted := ?accepted, once := ?once, done := ?done, answers := ?answers }
  case accepted =>
    have begun : a.batch < s.begun := own ▸ matched.begun b running
    exact List.forall_mem_append.mpr ⟨matched.accepted, List.forall_mem_singleton.mpr begun⟩
  case once =>
    refine List.pairwise_append.mpr ⟨matched.once, List.pairwise_singleton .., ?_⟩
    intro old there a' new
    cases List.mem_singleton.mp new
    exact fresh old there
  case done =>
    intro other running' a' taken same
    rcases List.mem_append.mp taken with taken | new
    · exact matched.done other running' a' taken same
    · cases List.mem_singleton.mp new
      -- no other batch has the number of `b`
      obtain rfl : other = b :=
        List.inj_on_of_nodup_map matched.distinct running' running (same.symm.trans own)
      exact ⟨record, exchange⟩
  case answers =>
    intro answer given a' taken same
    rcases List.mem_append.mp taken with taken | new
    · exact matched.answers answer given a' taken same
    · cases List.mem_singleton.mp new
      exact absurd (same.symm.trans own) (matched.closed answer given b running)

theorem Matched.complete {before after : List (Batch σ)} {b : Batch σ} {place : Nat}
    {job : Sink.Job} {e : Exchange} (queues : QueueRegistry) (matched : Matched s)
    (running : s.batches = before ++ b :: after) (there : b.jobs[place]? = some job)
    (due : b.done.lookup place = none) :
    Matched { s with
      batches := before ++ { b with done := b.done ++ [(place, e)] } :: after
      accepted := s.accepted ++ b.taken place job.1 e queues } := by
  have member : b ∈ s.batches := running ▸ List.mem_append_right _ List.mem_cons_self
  have goesOn : Matched { s with
      batches := before ++ { b with done := b.done ++ [(place, e)] } :: after } := by
    refine matched.withBatches ?_ fun other member' => ?_
    · have distinct := matched.distinct
      rw [running] at distinct
      simpa using distinct
    · rcases mem_of_replaced member' with rfl | old
      · exact ⟨b, member, b.goesOn_append _⟩
      · exact ⟨other, running ▸ old, .refl other⟩
  rcases publish_cases b place job.1 e queues with
    ⟨nothing, -⟩ | ⟨_, _, -, -, takes, -⟩
  · rw [nothing, List.append_nil]
    exact goesOn
  · rw [takes]
    refine goesOn.accept (List.mem_append_right _ List.mem_cons_self) rfl ?_ ?_ ?_
    · rw [there]
      rfl
    · rw [List.lookup_append, due, Option.none_or]
      simp
    · -- the place is due, so nothing was taken for it before
      intro old taken same
      obtain ⟨batch, at_place⟩ := Prod.mk.inj same
      obtain ⟨-, exchange⟩ := matched.done b member old taken batch
      rw [at_place, due] at exchange
      cases exchange

theorem Matched.answer {before after : List (Batch σ)} {b : Batch σ} (matched : Matched s)
    (running : s.batches = before ++ b :: after)
    (complete : ∀ place < b.jobs.length, (b.done.lookup place).isSome) :
    Matched { s with
      batches := before ++ after
      answers := s.answers ++
        [⟨b.number, b.jobs.map (·.1), Sink.inOrder b.jobs.length b.done⟩] } := by
  have member : b ∈ s.batches := running ▸ List.mem_append_right _ List.mem_cons_self
  have rest := matched.without running
  have others := matched.others running
  refine { rest with answered := ?answered, closed := ?closed, answers := ?answers }
  case answered =>
    intro answer given
    rcases List.mem_append.mp given with given | given
    · exact matched.answered answer given
    · cases List.mem_singleton.mp given
      exact matched.begun b member
  case closed =>
    intro answer given other running
    rcases List.mem_append.mp given with given | given
    · exact rest.closed answer given other running
    · cases List.mem_singleton.mp given
      exact others other running
  case answers =>
    intro answer given a taken same
    rcases List.mem_append.mp given with given | given
    · exact matched.answers answer given a taken same
    · cases List.mem_singleton.mp given
      obtain ⟨record, exchange⟩ := matched.done b member a taken same
      obtain ⟨job, there, -⟩ := Option.map_eq_some_iff.mp record
      obtain ⟨inside, -⟩ := List.getElem?_eq_some_iff.mp there
      exact ⟨List.getElem?_map.trans record, (Sink.inOrder_place complete inside).trans exchange⟩

theorem step_matched {s' : State σ} (step : Step name s s') (matched : Matched s) :
    Matched s' := by
  cases step with
  | startSink named started => exact { matched with }
  | startSource named started => exact { matched with }
  | put started read => exact { matched.put with }
  | @complete before after b place job e fx running there due completes =>
    exact { matched.complete s.fx.queues running there due with }
  | fail running there fails => exact { matched.without running with }
  | abandon running => exact matched.without running
  | answer running complete => exact matched.answer running complete
  | poll started polls => exact { matched with }
  | surroundings metrics state => exact { matched with }

end Matched

theorem Reachable.matched {name : String} {s : State σ} (h : Reachable name s) : Matched s := by
  induction h with
  | start capacity metrics state => exact matched_start capacity metrics state
  | next _ step ih => exact step_matched step ih

end HttpBridge.Bridge
