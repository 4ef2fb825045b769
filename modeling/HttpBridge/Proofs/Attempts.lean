import HttpBridge.Proofs.Retry
import Mathlib.Data.List.Basic

namespace HttpBridge.Retry

variable {σ : Type}

def AlwaysRetried (c : Client σ) (p : RetryPolicy) (r : Request) : Prop :=
  ∀ attempt st, ∃ e st', (c.call r attempt st).value = (.ok e, st') ∧ p.retries e.response = true

def retryWarning (r : Request) (e : Exchange) (next total : Nat) (wait : UInt64) : Log.Entry :=
  ⟨.warn, s!"Request to {r.url} failed with status {e.response.status}, retrying attempt {next}/{total} in {wait}ms"⟩

section At

variable (w : World σ) (c : Client σ) (p : RetryPolicy) (r : Request) (st : σ) (n : Nat)

def logAt : List Log.Entry :=
  (c.call r (.ofNat n) (stateAt w c p r st (n - 1))).log

/-- Gives what is logged of call `n` and of its retry. -/
def turnAt : List Log.Entry :=
  logAt w c p r st n ++
    match (callAt w c p r st n).1, waitAt w c p r st n with
    | .ok e, some wait => [retryWarning r e (n + 1) (p.maxRetries.toNat + 1) wait]
    | _, _ => []

def endAt : List Log.Entry :=
  logAt w c p r st n ++
    match (callAt w c p r st n).1 with
    | .ok e => (if e.success then noteSuccess r (.ofNat n) else noteFailure r e (.ofNat n)).log
    | .error _ => []

end At

section Log

variable {w : World σ} {c : Client σ} {p : RetryPolicy} {r : Request} {st st' st'' : σ}
  {e : Exchange} {attempt : UInt32} {wait : UInt64} {n : Nat}

theorem log_warnRetry (next all : UInt32) : (warnRetry r e next all wait).log =
    [retryWarning r e next.toNat all.toNat wait] := rfl

theorem log_runFrom_fault {f : ExchangeFault}
    (h : (c.call r attempt st).value = (.error f, st')) :
    (runFrom w c p r attempt st).log = (c.call r attempt st).log := by
  rw [runFrom]
  simp [Logged.log_bind, h]

theorem log_runFrom_last (h : (c.call r attempt st).value = (.ok e, st'))
    (hc : p.classify e attempt ≠ .retryable) :
    (runFrom w c p r attempt st).log =
      (c.call r attempt st).log ++
        (if e.success then noteSuccess r attempt else noteFailure r e attempt).log := by
  have given : p.classify e attempt = if e.success then .success else .terminal := by
    rw [RetryPolicy.classify] at hc ⊢
    split
    · rename_i again
      exact absurd (if_pos again) hc
    · rfl
  rw [runFrom]
  cases success : e.success with
  | true => simp_all [Logged.log_bind]
  | false => simp_all [Logged.log_bind]

theorem log_runFrom_stop (h : (c.call r attempt st).value = (.ok e, st'))
    (hc : p.classify e attempt = .retryable)
    (stop : (drawDelay w p attempt st').1 = none ∨ next? p.maxRetries = none) :
    (runFrom w c p r attempt st).log = (c.call r attempt st).log := by
  rw [runFrom]
  simp only [Logged.log_bind, h, hc]
  split
  · rename_i wait _ all
    rcases stop with stop | stop
    · simp [stop] at wait
    · simp [stop] at all
  · exact List.append_nil _

theorem log_runFrom_again (h : (c.call r attempt st).value = (.ok e, st'))
    (hc : p.classify e attempt = .retryable) (drawn : drawDelay w p attempt st' = (some wait, st''))
    (few : p.maxRetries.toNat + 1 < UInt32.size) :
    (runFrom w c p r attempt st).log =
      (c.call r attempt st).log ++
        retryWarning r e (attempt.toNat + 1) (p.maxRetries.toNat + 1) wait ::
        (runFrom w c p r (attempt + 1) (w.sleep wait st'')).log := by
  have later := next?_of_retryable hc few
  have all : next? p.maxRetries = some (p.maxRetries + 1) := if_pos few
  rw [← next?_eq_some.mp later, ← next?_eq_some.mp all, runFrom]
  simp only [Logged.log_bind, h, hc, drawn]
  split
  · rename_i known next total
    obtain rfl : wait = _ := Option.some.inj known
    obtain rfl := Option.some.inj (later.symm.trans next)
    obtain rfl := Option.some.inj (all.symm.trans total)
    simp [Logged.log_bind, log_warnRetry]
  · simp_all

theorem log_of_final (hn : n ≤ p.maxRetries.toNat) (ha : n + 1 < UInt32.size)
    (h : Final p (n + 1) (callAt w c p r st (n + 1)).1) :
    (runFrom w c p r (.ofNat (n + 1)) (stateAt w c p r st n)).log = endAt w c p r st (n + 1) := by
  have number : (UInt32.ofNat (n + 1)).toNat = n + 1 := UInt32.toNat_ofNat_of_lt ha
  rw [endAt, logAt]
  cases called : callAt w c p r st (n + 1) with
  | mk result st' =>
    have call : (c.call r (.ofNat (n + 1)) (stateAt w c p r st n)).value = (result, st') := called
    cases result with
    | error f => exact (log_runFrom_fault call).trans (List.append_nil _).symm
    | ok e =>
      apply log_runFrom_last call
      rw [Ne, classify_retryable_iff_not_final (by omega) (by omega), number]
      rw [called] at h
      exact fun again => again h

theorem log_of_uncounted (hn : n ≤ p.maxRetries.toNat) (ha : n + 1 < UInt32.size)
    (h : ¬ Final p (n + 1) (callAt w c p r st (n + 1)).1)
    (uncounted : Uncounted w c p r st (n + 1)) :
    (runFrom w c p r (.ofNat (n + 1)) (stateAt w c p r st n)).log = logAt w c p r st (n + 1) := by
  obtain ⟨e, st', call, -, again, stop⟩ := stop_of_uncounted hn ha h uncounted
  exact log_runFrom_stop call again stop

theorem log_of_counted (hn : n ≤ p.maxRetries.toNat) (ha : n + 1 < UInt32.size)
    (h : ¬ Final p (n + 1) (callAt w c p r st (n + 1)).1)
    (counted : ¬ Uncounted w c p r st (n + 1)) :
    (runFrom w c p r (.ofNat (n + 1)) (stateAt w c p r st n)).log = turnAt w c p r st (n + 1) ++
      (runFrom w c p r (.ofNat (n + 2)) (stateAt w c p r st (n + 1))).log := by
  have number : (UInt32.ofNat (n + 1)).toNat = n + 1 := UInt32.toNat_ofNat_of_lt ha
  have next : UInt32.ofNat (n + 1) + 1 = .ofNat (n + 2) := (UInt32.ofNat_add (n + 1) 1).symm
  obtain ⟨e, st', wait, call, called, again, known, drawn, slept⟩ :=
    retry_of_counted hn ha h counted
  rw [log_runFrom_again call again drawn (few_of_counted counted), number, next, slept, turnAt,
    called, known, List.append_assoc]
  rfl

theorem log_turns (w : World σ) (c : Client σ) (p : RetryPolicy) (r : Request) (st : σ)
    (n more : Nat) (left : n + more ≤ p.maxRetries.toNat)
    (small : n + more + 1 < UInt32.size)
    (retried : ∀ m, n < m → m ≤ n + more →
      ¬ Final p m (callAt w c p r st m).1 ∧ ¬ Uncounted w c p r st m) :
    (runFrom w c p r (.ofNat (n + 1)) (stateAt w c p r st n)).log =
      (List.range' (n + 1) more).flatMap (turnAt w c p r st) ++
        (runFrom w c p r (.ofNat (n + more + 1)) (stateAt w c p r st (n + more))).log := by
  -- on the turns; each is put in front, and leads to the state of the next call
  induction more generalizing n with
  | zero => rfl
  | succ more ih =>
    obtain ⟨again, counted⟩ := retried (n + 1) (by omega) (by omega)
    have rest := ih (n + 1) (by omega) (by omega) fun m late => retried m (by omega) ∘ by omega
    rw [log_of_counted (by omega) (by omega) again counted, rest, List.range'_succ,
      List.flatMap_cons, List.append_assoc, Nat.add_right_comm n 1 more]
    rfl

theorem log_run (w : World σ) (c : Client σ) (p : RetryPolicy) (r : Request) (st : σ) :
    ∃ k, 0 < k ∧ k ≤ p.maxRetries.toNat + 1 ∧
      (∀ n, 0 < n → n < k →
        ¬ Final p n (callAt w c p r st n).1 ∧ ¬ Uncounted w c p r st n) ∧
      EndsAt w c p r st 1 k (run w c p r st).value ∧
      (Final p k (callAt w c p r st k).1 → (run w c p r st).log =
        (List.range' 1 (k - 1)).flatMap (turnAt w c p r st) ++ endAt w c p r st k) ∧
      (¬ Final p k (callAt w c p r st k).1 → (run w c p r st).log =
        (List.range' 1 (k - 1)).flatMap (turnAt w c p r st) ++ logAt w c p r st k) := by
  obtain ⟨k, positive, high, before, ends⟩ := run_ends w c p r st
  obtain ⟨more, rfl⟩ := Nat.exists_eq_add_one_of_ne_zero (Nat.ne_of_gt positive)
  have small : more + 1 < UInt32.size := by
    cases more with
    | zero => decide
    | succ more =>
      have few := few_of_counted (before 1 Nat.one_pos (by omega)).2
      omega
  have turns := log_turns w c p r st 0 more (by omega) (by omega)
    fun m counted early => before m counted (by omega)
  simp only [Nat.zero_add] at turns
  refine ⟨more + 1, positive, high, before, ends, fun final => ?_, fun again => ?_⟩
  · rw [log_of_final (by omega) small final] at turns
    exact turns
  · cases ends with
    | final final => exact absurd final again
    | stop _ uncounted =>
      rw [log_of_uncounted (by omega) small again uncounted] at turns
      exact turns

end Log

section Retried

variable (w : World σ) {c : Client σ} {p : RetryPolicy} {r : Request} (st : σ) {n : Nat}
  (retried : AlwaysRetried c p r)

include retried

theorem final_iff_of_retried :
    Final p n (callAt w c p r st n).1 ↔ n = p.maxRetries.toNat + 1 := by
  obtain ⟨e, st', call, again⟩ := retried (.ofNat n) (stateAt w c p r st (n - 1))
  have called : (callAt w c p r st n).1 = .ok e := congrArg (·.1) call
  rw [called, Final, ← retries_eq_false, again]
  exact or_iff_right (by decide)

theorem follows_of_retried (counted : ∀ n, 0 < n → n ≤ p.maxRetries.toNat →
      ¬ Uncounted w c p r st n) :
    Follows w c p r st 1 (p.maxRetries.toNat + 1) (run w c p r st).value ∧
      (run w c p r st).log =
        (List.range' 1 p.maxRetries.toNat).flatMap (turnAt w c p r st) ++
          endAt w c p r st (p.maxRetries.toNat + 1) := by
  obtain ⟨k, positive, high, -, ends, log, -⟩ := log_run w c p r st
  cases ends with
  | final final follows =>
    obtain rfl := (final_iff_of_retried w st retried).mp final
    exact ⟨follows, log final⟩
  | stop again uncounted =>
    have other : k ≠ p.maxRetries.toNat + 1 := again ∘ (final_iff_of_retried w st retried).mpr
    exact absurd uncounted (counted k positive (by omega))

theorem stops_of_retried (positive : 0 < n) (left : n ≤ p.maxRetries.toNat)
    (uncounted : Uncounted w c p r st n)
    (counted : ∀ m, 0 < m → m < n → ¬ Uncounted w c p r st m) :
    Stops w c p r st 1 n (run w c p r st).value ∧ (run w c p r st).log =
      (List.range' 1 (n - 1)).flatMap (turnAt w c p r st) ++ logAt w c p r st n := by
  obtain ⟨k, positive', high, before, ends, -, log⟩ := log_run w c p r st
  have passed : ¬ n < k := fun later => (before n positive later).2 uncounted
  cases ends with
  | final final => exact absurd ((final_iff_of_retried w st retried).mp final) (by omega)
  | stop again uncounted' stops =>
    have reached : ¬ k < n := fun earlier => counted k positive' earlier uncounted'
    obtain rfl : k = n := by omega
    exact ⟨stops, log again⟩

theorem stops_of_most (most : p.maxRetries.toNat = UInt32.size - 1) :
    Stops w c p r st 1 1 (run w c p r st).value ∧
      (run w c p r st).log = (c.call r firstAttempt st).log :=
  stops_of_retried w st retried Nat.one_pos (most ▸ by decide) (.inr (most ▸ rfl)) (by omega)

/-- Where all calls are retried, a run makes one call more than it may make retries, numbers them
from one and warns before each retry with both figures as they are; unless something is too large to
be counted. That may be the wait after a call, and the run stops there; with the largest number of
retries it is the number of all calls, and the run stops after its first call, before any warning. -/
theorem run_always_retried :
    (p.maxRetries.toNat < UInt32.size - 1 →
      (∀ n, 0 < n → n ≤ p.maxRetries.toNat → waitAt w c p r st n ≠ none) →
      Follows w c p r st 1 (p.maxRetries.toNat + 1) (run w c p r st).value ∧
        (run w c p r st).log =
          (List.range' 1 p.maxRetries.toNat).flatMap (turnAt w c p r st) ++
            endAt w c p r st (p.maxRetries.toNat + 1)) ∧
      (∀ n, 0 < n → n ≤ p.maxRetries.toNat → Uncounted w c p r st n →
        (∀ m, 0 < m → m < n → ¬ Uncounted w c p r st m) →
        Stops w c p r st 1 n (run w c p r st).value ∧ (run w c p r st).log =
          (List.range' 1 (n - 1)).flatMap (turnAt w c p r st) ++ logAt w c p r st n) ∧
      (p.maxRetries.toNat = UInt32.size - 1 →
        Stops w c p r st 1 1 (run w c p r st).value ∧
          (run w c p r st).log = (c.call r firstAttempt st).log) ∧
      (p.cap.toNat + p.jitter.toNat < UInt64.size → ∀ n, waitAt w c p r st n ≠ none) := by
  refine ⟨fun few known => follows_of_retried w st retried fun n positive left => ?_,
    fun n => stops_of_retried w st retried, stops_of_most w st retried, fun fits n => ?_⟩
  · rw [uncounted_iff few]
    exact known n positive left
  · exact Option.ne_none_iff_exists'.mpr (waitAt_of_fits w c r st fits n)

end Retried

theorem deadClient_retried (p : RetryPolicy) (r : Request) : AlwaysRetried deadClient p r :=
  fun _ _ => ⟨_, _, rfl, rfl⟩

theorem run_deadClient_always_retried :
    let r := Request.get "http://a"
    (run clockWorld deadClient .default r 0).value.attempts.map UInt32.toNat = [1, 2] ∧
      (run clockWorld deadClient .default r 0).log =
        turnAt clockWorld deadClient .default r 0 1 ++ endAt clockWorld deadClient .default r 0 2 ∧
      (run clockWorld deadClient mostRetries r 0).value.attempts.map UInt32.toNat = [1] := by
  intro r
  obtain ⟨follows, -, -, known⟩ := run_always_retried clockWorld 0 (deadClient_retried .default r)
  obtain ⟨follows, log⟩ := follows (by decide) fun n _ _ => known (by decide +kernel) n
  obtain ⟨-, -, stops, -⟩ := run_always_retried clockWorld 0 (deadClient_retried mostRetries r)
  exact ⟨follows.attempts, log, (stops rfl).1.attempts⟩

theorem run_mostRetries_stops :
    let r := Request.get "http://a"
    let run := run clockWorld deadClient mostRetries r 0
    (Settings.ofList [(RetryPolicy.retriesKey, "4294967295")]).parsedOr RetryPolicy.retriesKey
        .uint32 RetryPolicy.default.maxRetries = .ok mostRetries.maxRetries ∧
      AlwaysRetried deadClient mostRetries r ∧ run.value.attempts.length = 1 ∧
      run.value.result = none ∧ run.log = [] := by
  intro r run
  have retried := deadClient_retried mostRetries r
  obtain ⟨stops, log⟩ := stops_of_most clockWorld 0 retried rfl
  have length := congrArg List.length stops.attempts
  rw [List.length_map] at length
  exact ⟨rfl, retried, length, stops.result, log⟩

end HttpBridge.Retry
