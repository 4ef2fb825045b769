import HttpBridge.Proofs.Metrics
import HttpBridge.Proofs.Retry
import HttpBridge.Task

namespace HttpBridge.Accounting

variable {σ : Type}

structure Ended where
  request : Request
  result : Except ExchangeFault Exchange
  duration : Time.Duration

def Ended.outcome? (e : Ended) : Option (Bool × Time.Duration) :=
  match e.result with
  | .ok exchange => some (exchange.success, e.duration)
  | .error _ => none

structure State where
  metrics : Metrics
  begun : List Request
  running : List Request
  ended : List Ended

def State.start : State :=
  ⟨.empty, [], [], []⟩

/-- A step of the submission of a request. Whatever comes of it, and whenever, it is counted as it
begins and as it ends. One that stops without a result has no end. -/
inductive Step (t : HttpTask σ) : Request → State → State → Prop
  | begin (r : Request) (s : State) :
      Step t r s { s with
        metrics := t.begin s.metrics r
        begun := s.begun ++ [r]
        running := s.running ++ [r] }
  | finish {r : Request} {s : State} {before after : List Request}
      {result : Except ExchangeFault Exchange} {duration : Time.Duration} {metrics : Metrics}
      (running : s.running = before ++ r :: after)
      (counts : t.finish s.metrics r result duration = some metrics) :
      Step t r s { s with
        metrics
        running := before ++ after
        ended := s.ended ++ [⟨r, result, duration⟩] }

inductive Reachable (t : HttpTask σ) : State → Prop
  | start : Reachable t .start
  | next {r : Request} {s s' : State} : Reachable t s → Step t r s s' → Reachable t s'

theorem Reachable.submit {t : HttpTask σ} {s : State} {r : Request} {st : σ} {run : RetryRun σ}
    {metrics : Metrics} (h : Reachable t s)
    (submits : (t.submit s.metrics r st).value = (run, some metrics)) :
    ∃ result, run.result = some result ∧ Reachable t ⟨metrics, s.begun ++ [r], s.running,
      s.ended ++ [⟨r, result, t.world.elapsed st run.state⟩]⟩ := by
  simp only [HttpTask.submit, Logged.value_bind, Logged.value_pure, Prod.mk.injEq,
    Option.bind_eq_some_iff] at submits
  obtain ⟨rfl, result, given, counts⟩ := submits
  have ends := (h.next (.begin r s)).next (.finish rfl counts)
  rw [List.append_nil] at ends
  exact ⟨result, given, ends⟩

section Counts

variable (t : HttpTask σ) (id : String)

def goesTo (r : Request) : Bool :=
  (t.registry.select r).id == id

def outcomes (ended : List Ended) : List (Bool × Time.Duration) :=
  (ended.filter fun e => goesTo t id e.request).filterMap Ended.outcome?

def faults (ended : List Ended) : Nat :=
  ended.countP fun e => goesTo t id e.request && e.outcome?.isNone

structure Accounts (s : State) : Prop where
  tallies : (s.metrics.get id).Tallies (s.begun.countP (goesTo t id)) (outcomes t id s.ended)
  entry : (s.metrics.stats.find? id).isSome ↔ ∃ r ∈ s.begun, goesTo t id r = true

end Counts

variable {t : HttpTask σ} {id : String} {r : Request} {s s' : State}

theorem goesTo_iff : goesTo t id r = true ↔ (t.registry.select r).id = id :=
  beq_iff_eq

theorem outcomes_add (ended : List Ended) (e : Ended) : outcomes t id (ended ++ [e]) =
    outcomes t id ended ++ if goesTo t id e.request then e.outcome?.toList else [] := by
  cases goes : goesTo t id e.request
  case false => simp [outcomes, goes]
  case true => cases outcome : e.outcome? <;> simp [outcomes, goes, outcome]

theorem Step.find?_of_ne (step : Step t r s s') (ne : id ≠ (t.registry.select r).id) :
    s'.metrics.stats.find? id = s.metrics.stats.find? id := by
  cases step with
  | begin => exact Metrics.find?_call_of_ne _ ne
  | @finish _ _ result _ _ _ counts =>
    cases result with
    | error f => rw [← Option.some.inj counts]
    | ok e =>
      obtain ⟨stats, -, rfl⟩ := Metrics.exchange_eq_some.mp counts
      exact Dict.find?_insert_of_ne _ _ ne

theorem Accounts.start : Accounts t id .start :=
  ⟨.zero, iff_of_false nofun nofun⟩

theorem Accounts.other (h : Accounts t id s) (step : Step t r s s')
    (other : goesTo t id r = false) : Accounts t id s' := by
  have ne : id ≠ (t.registry.select r).id := fun own => by simp [goesTo, own] at other
  have same := step.find?_of_ne ne
  have get := Metrics.get_of_find? same
  cases step with
  | begin =>
    constructor
    · rw [get]
      simpa [other] using h.tallies
    · rw [same]
      simpa [other] using h.entry
  | finish =>
    constructor
    · rw [get, outcomes_add]
      simpa [other] using h.tallies
    · rw [same]
      exact h.entry

theorem Accounts.own (h : Accounts t (t.registry.select r).id s) (step : Step t r s s')
    (begun : r ∈ s.running → r ∈ s.begun) : Accounts t (t.registry.select r).id s' := by
  have own : goesTo t (t.registry.select r).id r = true := goesTo_iff.mpr rfl
  cases step with
  | begin =>
    constructor
    · simpa [HttpTask.begin, own] using h.tallies.call
    · simp [HttpTask.begin, Metrics.call, Dict.find?_insert, own]
  | @finish before after result d metrics running counts =>
    cases result with
    | error f =>
      obtain rfl := Option.some.inj counts
      constructor
      · rw [outcomes_add]
        simpa [Ended.outcome?] using h.tallies
      · exact h.entry
    | ok e =>
      obtain ⟨stats, ended, rfl⟩ := Metrics.exchange_eq_some.mp counts
      constructor
      · rw [outcomes_add]
        simpa [Ended.outcome?, own] using h.tallies.exchange ended
      · have member : r ∈ s.begun := begun (by simp [running])
        simpa [Dict.find?_insert] using ⟨r, member, own⟩

end HttpBridge.Accounting
