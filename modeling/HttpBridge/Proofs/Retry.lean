import HttpBridge.Proofs.Assembly
import HttpBridge.Proofs.Delay
import HttpBridge.Retry.Run
/-!
Runs of calls, told call by call. A run makes its calls in order, with the wait of the policy between
two of them. It ends with the first call that is not retried, and what that call gives is the result;
or it stops, without a result, at a call whose retry can not be counted.
-/

namespace HttpBridge

variable {σ : Type}

/-- The same surroundings, with notes beside them that nothing in them looks at. -/
def World.beside {ν : Type} (w : World σ) : World (σ × ν) where
  send s st :=
    let (outcome, after) := w.send s st.1
    (outcome, (after, st.2))
  sleep ms st := (w.sleep ms st.1, st.2)
  now st := w.now st.1
  now_regular st := w.now_regular st.1
  elapsed before after := w.elapsed before.1 after.1
  draw most st :=
    let (draw, after) := w.draw most st.1
    (draw, (after, st.2))
  draw_le most st := w.draw_le most st.1
  boundary st :=
    let (boundary, after) := w.boundary st.1
    (boundary, (after, st.2))
  identifier st :=
    let (id, after) := w.identifier st.1
    (id, (after, st.2))

namespace Retry

def jitter (w : World σ) (p : RetryPolicy) (st : σ) : UInt64 × σ :=
  if p.jitter = 0 then (0, st) else w.draw p.jitter st

/-- Gives the state in which call `n + 1` is made, when all calls before it are retried: after each
of them its wait is drawn and slept. -/
def stateAt (w : World σ) (c : Client σ) (p : RetryPolicy) (r : Request) (st : σ) : Nat → σ
  | 0 => st
  | n + 1 =>
    let drawn := jitter w p (c.call r (.ofNat (n + 1)) (stateAt w c p r st n)).value.2
    w.sleep ((p.delay (.ofNat (n + 1)) drawn.1).getD 0) drawn.2

def callAt (w : World σ) (c : Client σ) (p : RetryPolicy) (r : Request) (st : σ) (n : Nat) :
    Except ExchangeFault Exchange × σ :=
  (c.call r (.ofNat n) (stateAt w c p r st (n - 1))).value

def waitAt (w : World σ) (c : Client σ) (p : RetryPolicy) (r : Request) (st : σ) (n : Nat) :
    Option UInt64 :=
  p.delay (.ofNat n) (jitter w p (callAt w c p r st n).2).1

/-- Says that call `n` is the last one when it has this result: a fault, a response that is not to be
retried, or any response once all retries are made. -/
def Final (p : RetryPolicy) (n : Nat) : Except ExchangeFault Exchange → Prop
  | .error _ => True
  | .ok e =>
    (e.response.status ≠ 0 ∧ p.retried.isMatch (toString e.response.status) = false) ∨
      n = p.maxRetries.toNat + 1

/-- Says that call `n` can not be retried, as the wait after it or the number of all calls is too
large to be counted. -/
def Uncounted (w : World σ) (c : Client σ) (p : RetryPolicy) (r : Request) (st : σ) (n : Nat) :
    Prop :=
  waitAt w c p r st n = none ∨ p.maxRetries.toNat + 1 = UInt32.size

/-- Says that a run makes the calls from `first` to `last` and the waits between them, nothing before
and nothing after. -/
structure Reaches (w : World σ) (c : Client σ) (p : RetryPolicy) (r : Request) (st : σ)
    (first last : Nat) (run : RetryRun σ) : Prop where
  attempts : run.attempts.map UInt32.toNat = List.range' first (last + 1 - first)
  waits : run.waits.map some = (List.range' first (last - first)).map (waitAt w c p r st)

structure Follows (w : World σ) (c : Client σ) (p : RetryPolicy) (r : Request) (st : σ)
    (first last : Nat) (run : RetryRun σ) : Prop extends Reaches w c p r st first last run where
  result : run.result = some (callAt w c p r st last).1
  state : run.state = (callAt w c p r st last).2

structure Stops (w : World σ) (c : Client σ) (p : RetryPolicy) (r : Request) (st : σ)
    (first last : Nat) (run : RetryRun σ) : Prop extends Reaches w c p r st first last run where
  result : run.result = none
  state : run.state = (jitter w p (callAt w c p r st last).2).2

inductive EndsAt (w : World σ) (c : Client σ) (p : RetryPolicy) (r : Request) (st : σ)
    (first last : Nat) (run : RetryRun σ) : Prop
  | final (final : Final p last (callAt w c p r st last).1)
      (follows : Follows w c p r st first last run)
  | stop (again : ¬ Final p last (callAt w c p r st last).1)
      (uncounted : Uncounted w c p r st last) (stops : Stops w c p r st first last run)

variable {w : World σ} {c : Client σ} {p : RetryPolicy} {r : Request} {st : σ}

theorem drawDelay_eq {retry : UInt32} (h : retry ≠ 0) (st : σ) :
    drawDelay w p retry st = (p.delay retry (jitter w p st).1, (jitter w p st).2) := by
  by_cases hj : p.jitter = 0
  · simp [drawDelay, jitter, hj]
  · simp [drawDelay, jitter, h, hj]

theorem drawDelay_beside {ν : Type} (w : World σ) (p : RetryPolicy) (retry : UInt32) (st : σ × ν) :
    (drawDelay w.beside p retry st).2.2 = st.2 := by
  unfold drawDelay
  split <;> rfl

theorem jitter_le (st : σ) : (jitter w p st).1 ≤ p.jitter := by
  unfold jitter
  split
  · exact UInt64.zero_le
  · exact w.draw_le p.jitter st

theorem waitAt_of_fits (w : World σ) (c : Client σ) (r : Request) (st : σ)
    (waits : p.cap.toNat + p.jitter.toNat < UInt64.size) (n : Nat) :
    ∃ wait, waitAt w c p r st n = some wait :=
  RetryPolicy.delay_of_fits _ waits (jitter_le _)

theorem retries_eq_false {e : Exchange} :
    p.retries e.response = false ↔
      e.response.status ≠ 0 ∧ p.retried.isMatch (toString e.response.status) = false := by
  simp [RetryPolicy.retries, Response.isTransportFailure, transportFailureStatus,
    RetryPolicy.retriesStatus]

theorem toNat_retriesBefore (attempts : UInt32) :
    (retriesBefore attempts).toNat = attempts.toNat - 1 := by
  unfold retriesBefore
  split
  · rename_i h
    rw [h]
    rfl
  · rename_i h
    have h1 : (1 : UInt32) ≤ attempts := by
      rw [UInt32.le_iff_toNat_le]
      have : attempts.toNat ≠ 0 := fun h0 => h (UInt32.toNat_inj.mp h0)
      exact Nat.one_le_iff_ne_zero.mpr this
    rw [UInt32.toNat_sub_of_le _ _ h1]
    rfl

theorem classify_retryable_iff {e : Exchange} {attempts : UInt32} :
    p.classify e attempts = .retryable ↔
      p.retries e.response = true ∧ attempts.toNat - 1 < p.maxRetries.toNat := by
  rw [← toNat_retriesBefore, ← UInt32.lt_iff_toNat_lt]
  unfold RetryPolicy.classify
  split
  · rename_i h
    simpa using h
  · rename_i h
    constructor
    · split <;> simp
    · intro ⟨hr, hlt⟩
      simp [hr, hlt] at h

theorem classify_retryable_iff_not_final {e : Exchange} {attempts : UInt32}
    (h₀ : 0 < attempts.toNat) (h : attempts.toNat ≤ p.maxRetries.toNat + 1) :
    p.classify e attempts = .retryable ↔ ¬ Final p attempts.toNat (.ok e) := by
  rw [classify_retryable_iff, Final, ← retries_eq_false, not_or, Bool.not_eq_false]
  constructor
  · rintro ⟨hr, hlt⟩
    exact ⟨hr, by omega⟩
  · rintro ⟨hr, hne⟩
    exact ⟨hr, by omega⟩

theorem next?_of_retryable {e : Exchange} {attempt : UInt32}
    (again : p.classify e attempt = .retryable) (few : p.maxRetries.toNat + 1 < UInt32.size) :
    next? attempt = some (attempt + 1) := by
  obtain ⟨-, left⟩ := classify_retryable_iff.mp again
  have fits : attempt.toNat + 1 < UInt32.size := by omega
  exact if_pos fits

section Turns

variable {attempt : UInt32} {st st' st'' : σ} {e : Exchange} {wait : UInt64}

theorem runFrom_fault {f : ExchangeFault} (h : (c.call r attempt st).value = (.error f, st')) :
    (runFrom w c p r attempt st).value = .single attempt (some (.error f)) st' := by
  rw [runFrom]
  simp [h]

theorem runFrom_last (h : (c.call r attempt st).value = (.ok e, st'))
    (hc : p.classify e attempt ≠ .retryable) :
    (runFrom w c p r attempt st).value = .single attempt (some (.ok e)) st' := by
  rw [runFrom]
  cases hk : p.classify e attempt with
  | retryable => exact absurd hk hc
  | success => simp [h, hk]
  | terminal => simp [h, hk]

theorem runFrom_stop (h : (c.call r attempt st).value = (.ok e, st'))
    (hc : p.classify e attempt = .retryable)
    (stop : (drawDelay w p attempt st').1 = none ∨ next? p.maxRetries = none) :
    (runFrom w c p r attempt st).value = .single attempt none (drawDelay w p attempt st').2 := by
  rw [runFrom]
  simp only [Logged.value_bind, h, hc]
  split
  · rename_i wait _ all
    rcases stop with stop | stop
    · simp [stop] at wait
    · simp [stop] at all
  · rfl

theorem runFrom_again (h : (c.call r attempt st).value = (.ok e, st'))
    (hc : p.classify e attempt = .retryable) (drawn : drawDelay w p attempt st' = (some wait, st''))
    (few : p.maxRetries.toNat + 1 < UInt32.size) :
    (runFrom w c p r attempt st).value =
      ((runFrom w c p r (attempt + 1) (w.sleep wait st'')).value).after attempt wait := by
  have later := next?_of_retryable hc few
  have all : next? p.maxRetries = some (p.maxRetries + 1) := if_pos few
  rw [runFrom]
  simp only [Logged.value_bind, h, hc, drawn]
  split
  · rename_i next _ _ _
    simp_all
  · simp_all

end Turns

/-- A run is a call that ends it, a call whose retry can not be counted, or a call and a wait before
the rest of it. -/
theorem runFrom_induct {motive : UInt32 → σ → RetryRun σ → Prop}
    (fault : ∀ {attempt st f st'}, (c.call r attempt st).value = (.error f, st') →
      motive attempt st (.single attempt (some (.error f)) st'))
    (last : ∀ {attempt st e st'}, (c.call r attempt st).value = (.ok e, st') →
      p.classify e attempt ≠ .retryable → motive attempt st (.single attempt (some (.ok e)) st'))
    (stop : ∀ {attempt st e st'}, (c.call r attempt st).value = (.ok e, st') →
      p.classify e attempt = .retryable →
      (drawDelay w p attempt st').1 = none ∨ next? p.maxRetries = none →
      motive attempt st (.single attempt none (drawDelay w p attempt st').2))
    (again : ∀ {attempt st e st' wait st'' run}, (c.call r attempt st).value = (.ok e, st') →
      p.classify e attempt = .retryable → drawDelay w p attempt st' = (some wait, st'') →
      p.maxRetries.toNat + 1 < UInt32.size →
      motive (attempt + 1) (w.sleep wait st'') run → motive attempt st (run.after attempt wait))
    (attempt : UInt32) (st : σ) : motive attempt st (runFrom w c p r attempt st).value := by
  -- on the numbers above the one of the attempt; a retry has one of them
  induction left : UInt32.size - attempt.toNat using Nat.strong_induction_on
    generalizing attempt st with
  | _ left ih =>
    cases h : (c.call r attempt st).value with
    | mk result st' =>
      cases result with
      | error f => exact runFrom_fault h ▸ fault h
      | ok e =>
        by_cases hk : p.classify e attempt = .retryable
        · cases drawn : drawDelay w p attempt st' with
          | mk wait st'' =>
            by_cases few : p.maxRetries.toNat + 1 < UInt32.size
            · cases wait with
              | none =>
                have none := Or.inl (b := next? p.maxRetries = .none) (congrArg (·.1) drawn)
                exact runFrom_stop h hk none ▸ stop h hk none
              | some wait =>
                have later := next?_eq_some.mp (next?_of_retryable hk few)
                have small := (attempt + 1).toNat_lt_size
                rw [runFrom_again h hk drawn few]
                exact again h hk drawn few (ih _ (by omega) _ _ rfl)
            · have none := Or.inr (a := (drawDelay w p attempt st').1 = .none)
                (next?_eq_none.mpr (Nat.not_lt.mp few))
              exact runFrom_stop h hk none ▸ stop h hk none
        · exact runFrom_last h hk ▸ last h hk

theorem final_last (result : Except ExchangeFault Exchange) :
    Final p (p.maxRetries.toNat + 1) result := by
  cases result with
  | error f => trivial
  | ok e => exact .inr rfl

variable {n : Nat}

theorem runFrom_of_final (hn : n ≤ p.maxRetries.toNat) (ha : n + 1 < UInt32.size)
    (h : Final p (n + 1) (callAt w c p r st (n + 1)).1) :
    (runFrom w c p r (.ofNat (n + 1)) (stateAt w c p r st n)).value =
      .single (.ofNat (n + 1)) (some (callAt w c p r st (n + 1)).1)
        (callAt w c p r st (n + 1)).2 := by
  have hv : (UInt32.ofNat (n + 1)).toNat = n + 1 := UInt32.toNat_ofNat_of_lt ha
  cases hc : callAt w c p r st (n + 1) with
  | mk result st' =>
    cases result with
    | error f => exact runFrom_fault hc
    | ok e =>
      apply runFrom_last hc
      rw [Ne, classify_retryable_iff_not_final (by omega) (by omega), hv]
      rw [hc] at h
      exact fun hn => hn h

theorem retry_of_not_final (hn : n ≤ p.maxRetries.toNat) (ha : n + 1 < UInt32.size)
    (h : ¬ Final p (n + 1) (callAt w c p r st (n + 1)).1) : ∃ e st',
    (c.call r (.ofNat (n + 1)) (stateAt w c p r st n)).value = (.ok e, st') ∧
      callAt w c p r st (n + 1) = (.ok e, st') ∧ p.classify e (.ofNat (n + 1)) = .retryable ∧
      drawDelay w p (.ofNat (n + 1)) st' = (waitAt w c p r st (n + 1), (jitter w p st').2) := by
  have hv : (UInt32.ofNat (n + 1)).toNat = n + 1 := UInt32.toNat_ofNat_of_lt ha
  have h0 : UInt32.ofNat (n + 1) ≠ 0 := by
    intro h0
    rw [h0] at hv
    cases hv
  cases hc : callAt w c p r st (n + 1) with
  | mk result st' =>
    rw [hc] at h
    cases result with
    | error f => exact absurd trivial h
    | ok e =>
      refine ⟨e, st', hc, rfl, ?_, ?_⟩
      · rw [classify_retryable_iff_not_final (by omega) (by omega), hv]
        exact h
      · rw [drawDelay_eq h0, waitAt, hc]

theorem stop_of_uncounted (hn : n ≤ p.maxRetries.toNat) (ha : n + 1 < UInt32.size)
    (h : ¬ Final p (n + 1) (callAt w c p r st (n + 1)).1)
    (uncounted : Uncounted w c p r st (n + 1)) : ∃ e st',
    (c.call r (.ofNat (n + 1)) (stateAt w c p r st n)).value = (.ok e, st') ∧
      (drawDelay w p (.ofNat (n + 1)) st').2 = (jitter w p (callAt w c p r st (n + 1)).2).2 ∧
      p.classify e (.ofNat (n + 1)) = .retryable ∧
      ((drawDelay w p (.ofNat (n + 1)) st').1 = none ∨ next? p.maxRetries = none) := by
  obtain ⟨e, st', call, called, again, drawn⟩ := retry_of_not_final hn ha h
  refine ⟨e, st', call, by rw [drawn, called], again, ?_⟩
  rw [drawn, next?_eq_none]
  exact uncounted.imp_right fun most => Nat.le_of_eq most.symm

theorem runFrom_of_uncounted (hn : n ≤ p.maxRetries.toNat) (ha : n + 1 < UInt32.size)
    (h : ¬ Final p (n + 1) (callAt w c p r st (n + 1)).1)
    (uncounted : Uncounted w c p r st (n + 1)) :
    (runFrom w c p r (.ofNat (n + 1)) (stateAt w c p r st n)).value =
      .single (.ofNat (n + 1)) none (jitter w p (callAt w c p r st (n + 1)).2).2 := by
  obtain ⟨e, st', call, drawn, again, stop⟩ := stop_of_uncounted hn ha h uncounted
  rw [runFrom_stop call again stop, drawn]

theorem few_of_counted (counted : ¬ Uncounted w c p r st n) :
    p.maxRetries.toNat + 1 < UInt32.size :=
  Nat.lt_of_le_of_ne p.maxRetries.toNat_lt_size fun most => counted (.inr most)

theorem retry_of_counted (hn : n ≤ p.maxRetries.toNat) (ha : n + 1 < UInt32.size)
    (h : ¬ Final p (n + 1) (callAt w c p r st (n + 1)).1)
    (counted : ¬ Uncounted w c p r st (n + 1)) : ∃ e st' wait,
    (c.call r (.ofNat (n + 1)) (stateAt w c p r st n)).value = (.ok e, st') ∧
      callAt w c p r st (n + 1) = (.ok e, st') ∧ p.classify e (.ofNat (n + 1)) = .retryable ∧
      waitAt w c p r st (n + 1) = some wait ∧
      drawDelay w p (.ofNat (n + 1)) st' = (some wait, (jitter w p st').2) ∧
      stateAt w c p r st (n + 1) = w.sleep wait (jitter w p st').2 := by
  obtain ⟨e, st', call, called, again, drawn⟩ := retry_of_not_final hn ha h
  obtain ⟨wait, known⟩ := Option.ne_none_iff_exists'.mp fun none => counted (.inl none)
  refine ⟨e, st', wait, call, called, again, known, known ▸ drawn, ?_⟩
  rw [waitAt, called] at known
  rw [stateAt, call]
  simp only [known, Option.getD_some]

theorem runFrom_of_counted (hn : n ≤ p.maxRetries.toNat) (ha : n + 1 < UInt32.size)
    (h : ¬ Final p (n + 1) (callAt w c p r st (n + 1)).1)
    (counted : ¬ Uncounted w c p r st (n + 1)) :
    ∃ wait, waitAt w c p r st (n + 1) = some wait ∧
      (runFrom w c p r (.ofNat (n + 1)) (stateAt w c p r st n)).value =
        ((runFrom w c p r (.ofNat (n + 2)) (stateAt w c p r st (n + 1))).value).after
          (.ofNat (n + 1)) wait := by
  obtain ⟨e, st', wait, call, -, again, known, drawn, slept⟩ := retry_of_counted hn ha h counted
  refine ⟨wait, known, ?_⟩
  rw [runFrom_again call again drawn (few_of_counted counted), slept,
    UInt32.ofNat_add (n + 1) 1]
  rfl

theorem Reaches.single (hn : n < UInt32.size) (result : Option (Except ExchangeFault Exchange))
    (st' : σ) : Reaches w c p r st n n (.single (.ofNat n) result st') where
  attempts := by
    have hv : (UInt32.ofNat n).toNat = n := UInt32.toNat_ofNat_of_lt hn
    simp only [RetryRun.single, List.map_singleton, hv]
    simp
  waits := by simp [RetryRun.single]

theorem Reaches.after {last : Nat} {run : RetryRun σ} {wait : UInt64} (hn : n < UInt32.size)
    (hl : n < last) (known : waitAt w c p r st n = some wait)
    (h : Reaches w c p r st (n + 1) last run) :
    Reaches w c p r st n last (run.after (.ofNat n) wait) where
  attempts := by
    have hlen : last + 1 - n = (last + 1 - (n + 1)) + 1 := by omega
    have hv : (UInt32.ofNat n).toNat = n := UInt32.toNat_ofNat_of_lt hn
    rw [RetryRun.after, List.map_cons, h.attempts, hv, hlen, List.range'_succ]
  waits := by
    have hlen : last - n = (last - (n + 1)) + 1 := by omega
    rw [RetryRun.after, List.map_cons, h.waits, hlen, List.range'_succ, List.map_cons, known]

theorem EndsAt.after {last : Nat} {run : RetryRun σ} {wait : UInt64} (hn : n < UInt32.size)
    (hl : n < last) (known : waitAt w c p r st n = some wait)
    (h : EndsAt w c p r st (n + 1) last run) :
    EndsAt w c p r st n last (run.after (.ofNat n) wait) := by
  cases h with
  | final final follows =>
    exact .final final ⟨follows.toReaches.after hn hl known, follows.result, follows.state⟩
  | stop again uncounted stops =>
    exact .stop again uncounted ⟨stops.toReaches.after hn hl known, stops.result, stops.state⟩

theorem runFrom_ends {more : Nat} (hm : n + more = p.maxRetries.toNat)
    (ha : n + 1 < UInt32.size) :
    ∃ k, n < k ∧ k ≤ p.maxRetries.toNat + 1 ∧
      (∀ m, n < m → m < k →
        ¬ Final p m (callAt w c p r st m).1 ∧ ¬ Uncounted w c p r st m) ∧
      EndsAt w c p r st (n + 1) k
        (runFrom w c p r (.ofNat (n + 1)) (stateAt w c p r st n)).value := by
  -- on the retries that the policy still allows after call `n + 1`
  induction more generalizing n with
  | zero =>
    obtain rfl : n = p.maxRetries.toNat := hm
    have hf := final_last (p := p) (callAt w c p r st (p.maxRetries.toNat + 1)).1
    refine ⟨_, Nat.lt_succ_self _, Nat.le_refl _, by omega, .final hf ?_⟩
    rw [runFrom_of_final (Nat.le_refl _) ha hf]
    exact ⟨.single ha _ _, rfl, rfl⟩
  | succ more ih =>
    have first : ∀ m, n < m → m < n + 1 →
        ¬ Final p m (callAt w c p r st m).1 ∧ ¬ Uncounted w c p r st m := by omega
    by_cases hf : Final p (n + 1) (callAt w c p r st (n + 1)).1
    · refine ⟨n + 1, Nat.lt_succ_self _, by omega, first, .final hf ?_⟩
      rw [runFrom_of_final (by omega) ha hf]
      exact ⟨.single ha _ _, rfl, rfl⟩
    · by_cases hu : Uncounted w c p r st (n + 1)
      · refine ⟨n + 1, Nat.lt_succ_self _, by omega, first, .stop hf hu ?_⟩
        rw [runFrom_of_uncounted (by omega) ha hf hu]
        exact ⟨.single ha _ _, rfl, rfl⟩
      · have few := few_of_counted hu
        obtain ⟨k, hk, hle, before, ends⟩ := ih (n := n + 1) (by omega) (by omega)
        obtain ⟨wait, known, rest⟩ := runFrom_of_counted (by omega) ha hf hu
        refine ⟨k, by omega, hle, fun m hm hmk => ?_, ?_⟩
        · by_cases heq : m = n + 1
          · rw [heq]
            exact ⟨hf, hu⟩
          · exact before m (by omega) hmk
        · rw [rest]
          exact ends.after ha hk known

theorem run_ends (w : World σ) (c : Client σ) (p : RetryPolicy) (r : Request) (st : σ) :
    ∃ k, 0 < k ∧ k ≤ p.maxRetries.toNat + 1 ∧
      (∀ n, 0 < n → n < k →
        ¬ Final p n (callAt w c p r st n).1 ∧ ¬ Uncounted w c p r st n) ∧
      EndsAt w c p r st 1 k (run w c p r st).value :=
  runFrom_ends (Nat.zero_add p.maxRetries.toNat) (by decide)

theorem run_of_fits (fits : p.Fits) (r : Request) (st : σ) :
    (run w c p r st).value.result.isSome := by
  obtain ⟨k, -, -, -, ends⟩ := run_ends w c p r st
  cases ends with
  | final final follows => rw [follows.result]; rfl
  | stop again uncounted stops =>
    obtain ⟨wait, known⟩ := waitAt_of_fits w c r st fits.waits k
    rcases uncounted with none | most
    · cases known.symm.trans none
    · exact absurd fits.attempts (Nat.not_lt.mpr (Nat.le_of_eq most.symm))

theorem runFrom_result (attempt : UInt32) (st : σ) {result : Except ExchangeFault Exchange}
    (h : (runFrom w c p r attempt st).value.result = some result) :
    ∃ attempt' st', result = (c.call r attempt' st').value.1 := by
  revert h
  apply runFrom_induct (motive := fun _ _ run => run.result = some result →
    ∃ attempt' st', result = (c.call r attempt' st').value.1)
  case fault => exact fun h same => ⟨_, _, (Option.some.inj same).symm.trans (congrArg (·.1) h).symm⟩
  case last => exact fun h _ same => ⟨_, _, (Option.some.inj same).symm.trans (congrArg (·.1) h).symm⟩
  case stop => exact fun _ _ _ => nofun
  case again => exact fun _ _ _ _ later => later

theorem run_result {result : Except ExchangeFault Exchange}
    (h : (run w c p r st).value.result = some result) :
    ∃ attempt st', result = (c.call r attempt st').value.1 :=
  runFrom_result _ _ h

theorem first_final (w : World σ) (c : Client σ) (p : RetryPolicy) (r : Request) (st : σ) :
    ∃ k, 0 < k ∧ k ≤ p.maxRetries.toNat + 1 ∧ Final p k (callAt w c p r st k).1 ∧
      ∀ n, 0 < n → n < k → ¬ Final p n (callAt w c p r st n).1 := by
  classical
  have some : ∃ k, 0 < k ∧ Final p k (callAt w c p r st k).1 :=
    ⟨_, Nat.succ_pos _, final_last _⟩
  obtain ⟨positive, final⟩ := Nat.find_spec some
  exact ⟨Nat.find some, positive, Nat.find_min' some ⟨Nat.succ_pos _, final_last _⟩, final,
    fun n counted earlier final => Nat.find_min some earlier ⟨counted, final⟩⟩

theorem uncounted_iff (few : p.maxRetries.toNat < UInt32.size - 1) :
    Uncounted w c p r st n ↔ waitAt w c p r st n = none :=
  or_iff_left (by omega)

/-- With fewer than the largest number of retries, a run makes the calls 1, 2, ..., `k` up to the
first final one, sleeps the delay of the policy between each two of them, and gives back what call
`k` gave; unless the delay after some call can not be counted, at which it stops. If 64 bits hold
the sum of the limits of a delay, there is no such call. -/
theorem run_ends_with_first_final (w : World σ) (c : Client σ) (p : RetryPolicy) (r : Request)
    (st : σ) (few : p.maxRetries.toNat < UInt32.size - 1) :
    ∃ k, 0 < k ∧ Final p k (callAt w c p r st k).1 ∧
      (∀ n, 0 < n → n < k → ¬ Final p n (callAt w c p r st n).1) ∧
      ((∀ n, 0 < n → n < k → waitAt w c p r st n ≠ none) →
        Follows w c p r st 1 k (run w c p r st).value ∧
        (c.Assembles → ∀ e, (run w c p r st).value.result = some (.ok e) →
          e.attempts.toNat = k)) ∧
      (∀ n, 0 < n → n < k → waitAt w c p r st n = none →
        (∀ m, 0 < m → m < n → waitAt w c p r st m ≠ none) →
        Stops w c p r st 1 n (run w c p r st).value) ∧
      (p.cap.toNat + p.jitter.toNat < UInt64.size → ∀ n, waitAt w c p r st n ≠ none) := by
  obtain ⟨k, positive, high, final, least⟩ := first_final w c p r st
  obtain ⟨l, positive', -, before, ends⟩ := run_ends w c p r st
  have reached : ¬ k < l := fun later => (before k positive later).1 final
  refine ⟨k, positive, final, least, fun known => ?_, fun n counted early none known => ?_,
    fun fits n => Option.ne_none_iff_exists'.mpr (waitAt_of_fits w c r st fits n)⟩
  · cases ends with
    | final final' follows =>
      have same : ¬ l < k := fun earlier => least l positive' earlier final'
      obtain rfl : l = k := by omega
      refine ⟨follows, fun assembles e given => ?_⟩
      rw [assembles.attempts (Option.some.inj (follows.result.symm.trans given))]
      exact UInt32.toNat_ofNat_of_lt (by omega)
    | stop again uncounted =>
      have other : l ≠ k := fun same => again (same ▸ final)
      exact absurd ((uncounted_iff few).mp uncounted) (known l positive' (by omega))
  · have passed : ¬ n < l := fun later => (before n counted later).2 (.inl none)
    cases ends with
    | final final' => exact absurd final' (least l positive' (by omega))
    | stop again uncounted stops =>
      have reached' : ¬ l < n := fun earlier =>
        known l positive' earlier ((uncounted_iff few).mp uncounted)
      obtain rfl : l = n := by omega
      exact stops

def clockWorld : World Nat where
  send _ t := (.unsent "", t)
  sleep ms t := t + ms.toNat
  now _ := .epoch
  now_regular _ := by decide
  elapsed _ _ := .zero
  draw _ t := (0, t)
  draw_le _ _ := UInt64.zero_le
  boundary t := ("", t)
  identifier t := ("", t)

def deadClient : Client Nat where
  name := "dead"
  settings := .default
  call r attempt t :=
    return (ClientSettings.default.exchange r (.transportFailure "down") .zero .epoch attempt, t)

theorem run_deadClient_ends_with_second :
    RetryPolicy.default.maxRetries.toNat < UInt32.size - 1 ∧
      (run clockWorld deadClient .default (.get "http://a") 0).value.attempts.map UInt32.toNat =
        [1, 2] := by
  have few : RetryPolicy.default.maxRetries.toNat < UInt32.size - 1 := by decide
  refine ⟨few, ?_⟩
  obtain ⟨k, positive, final, least, follows, -, fits⟩ :=
    run_ends_with_first_final clockWorld deadClient .default (.get "http://a") 0 few
  have first : (callAt clockWorld deadClient .default (.get "http://a") 0 1).1 =
      .ok ⟨.get "http://a", .transportFailure "down", 0, .epoch, 1, false, by decide⟩ := rfl
  have h1 : k ≠ 1 := by
    rintro rfl
    rw [first] at final
    obtain ⟨h, -⟩ | h := final
    · exact h rfl
    · cases h
  have h2 : ¬ 2 < k := fun h => least 2 (by decide) h (final_last (p := .default) _)
  obtain rfl : k = 2 := by omega
  exact (follows fun n _ _ => fits (by decide +kernel) n).1.attempts

def eagerWorld : World Nat :=
  { clockWorld with
    draw := fun most t => (most, t)
    draw_le := fun most _ => UInt64.le_refl most }

def widest : RetryPolicy :=
  let most := 18446744073709551615
  { RetryPolicy.default with baseDelay := most, maxDelay := most, jitter := most }

def mostRetries : RetryPolicy :=
  { RetryPolicy.default with maxRetries := 4294967295, baseDelay := 0, jitter := 0 }

/-- The first call is not the last one, but the delay after it is too long to be counted. -/
theorem run_widest_stops :
    let run := (run eagerWorld deadClient widest (.get "http://a") 0).value
    widest.maxRetries = 1 ∧
      ¬ Final widest 1 (callAt eagerWorld deadClient widest (.get "http://a") 0 1).1 ∧
      run.attempts = [1] ∧ run.result.isNone := by
  have first : (callAt eagerWorld deadClient widest (.get "http://a") 0 1).1 =
      .ok ⟨.get "http://a", .transportFailure "down", 0, .epoch, 1, false, by decide⟩ := rfl
  refine ⟨rfl, ?_, by decide +kernel, by decide +kernel⟩
  rw [first]
  rintro (⟨answered, -⟩ | most)
  · exact answered rfl
  · cases most

end Retry

end HttpBridge
