import HttpBridge.Proofs.Retry

namespace HttpBridge

namespace Response.Alike

variable {r r' r'' : Response}

theorem symm (h : r.Alike r') : r'.Alike r :=
  ⟨⟨h.status.symm, h.headers.symm⟩, h.body.symm⟩

theorem trans (h : r.Alike r') (h' : r'.Alike r'') : r.Alike r'' :=
  ⟨⟨h.status.trans h'.status, h.headers.trans h'.headers⟩, h.body.trans h'.body⟩

theorem truncated (h : r.Alike r') (t : Truncation) : (t.apply r).Alike (t.apply r') := by
  refine ⟨⟨h.status, h.headers⟩, ?_⟩
  simp only [Truncation.apply, h.body]

theorem succeeds (h : r.Alike r') (c : ClientSettings) : c.succeeds r = c.succeeds r' := by
  simp [ClientSettings.succeeds, Response.isTransportFailure, Response.statusText, h.status]

theorem exchange (h : r.Alike r') (accepted : 0 ≤ r.status) (c : ClientSettings)
    (request : Request) (duration : Time.Duration) (moment : Time.Moment) (attempts : UInt32) :
    ∃ e e', c.exchange request r duration moment attempts = .ok e ∧
      c.exchange request r' duration moment attempts = .ok e' ∧ e.Alike e' := by
  have accepted' : 0 ≤ r'.status := h.status ▸ accepted
  exact ⟨_, _, dif_pos accepted, dif_pos accepted', rfl, h.truncated c.truncation, rfl, rfl, rfl,
    h.succeeds c⟩

end Response.Alike

namespace Implementation

def typeName : Implementation → String
  | .lenient => Lenient.typeName
  | .strict => Strict.typeName

def handed (i : Implementation) (boundary : String) (r : Request) : Submission :=
  (Submission.of i.typeName boundary r).value

def Accepts : Implementation → Submission → Prop
  | .lenient, s => Lenient.build s >>= Lenient.check = .ok ()
  | .strict, s => Strict.build s >>= Strict.check = .ok ()

instance (i : Implementation) (s : Submission) : Decidable (i.Accepts s) :=
  match i with
  | .lenient => inferInstanceAs (Decidable (Lenient.build s >>= Lenient.check = .ok ()))
  | .strict => inferInstanceAs (Decidable (Strict.build s >>= Strict.check = .ok ()))

def sent : Implementation → Submission → Submission
  | .lenient, s =>
    match Lenient.build s with
    | .ok built => built.submission
    | .error _ => s
  | .strict, s => s.lowered

theorem handed_lowered (boundary : String) (r : Request) :
    (handed .lenient boundary r).lowered = (handed .strict boundary r).lowered := by
  simp only [handed, Submission.of, Logged.value_bind, Logged.value_pure, Submission.lowered,
    sentHeaders]
  have same : Text.lowerAscii (typeName .lenient) = Text.lowerAscii (typeName .strict) := by decide
  split
  · split
    · rfl
    · simp only [List.map_append, List.map_singleton, Header.lower, same]
  · rfl

end Implementation

namespace Client

variable {σ : Type}

theorem respond_accepted {w : World σ} {i : Implementation} {r : Request} {st before after : σ}
    {boundary : String} {outcome : Outcome} (draws : w.boundary st = (boundary, before))
    (sends : w.send (i.sent (i.handed boundary r)) before = (outcome, after))
    (accepted : i.Accepts (i.handed boundary r)) :
    ∃ response, (respond w i r st).value = (response, after) ∧
      response.Alike outcome.response := by
  cases i with
  | lenient =>
    obtain ⟨built, builds, checks⟩ := bind_eq_ok.mp accepted
    simp only [Implementation.sent, builds] at sends
    refine ⟨_, ?_, lenientResponse_alike r built.url.render outcome⟩
    simp only [Implementation.handed, Implementation.typeName] at builds
    simp only [respond, lenient, Logged.value_bind, Logged.value_pure, draws, builds, checks, sends]
  | strict =>
    obtain ⟨target, builds, checks⟩ := bind_eq_ok.mp accepted
    refine ⟨_, ?_, strictResponse_alike r outcome⟩
    simp only [Implementation.sent, Implementation.handed, Implementation.typeName] at sends builds
    simp only [respond, strict, Logged.value_bind, Logged.value_pure, draws, builds, checks, sends]

end Client

namespace World

variable {σ : Type}

/-- Says that what comes back does not depend on what is sent. -/
def Blind (w : World σ) : Prop :=
  ∀ s s' st, w.send s st = w.send s' st

def noting (w : World σ) : World (σ × List (Time.Moment × Submission)) :=
  { w.beside with
    send := fun s st =>
      let (outcome, after) := w.send s st.1
      (outcome, (after, st.2 ++ [(w.now st.1, s)])) }

end World

namespace Retry

section Lockstep

variable {σ τ : Type}

/-- Says that a relation of states, after some number of calls, is kept by all that runs over two
clients do. -/
structure Lockstep (R : Nat → σ → τ → Prop) (w : World σ) (w' : World τ) (c : Client σ)
    (c' : Client τ) (r : Request) : Prop where
  call : ∀ {n st st'} attempt, R n st st' → ∃ e e' after after',
    (c.call r attempt st).value = (.ok e, after) ∧ (c'.call r attempt st').value = (.ok e', after') ∧
      e.Alike e' ∧ R (n + 1) after after'
  draw : ∀ {n st st'} most, R n st st' →
    (w.draw most st).1 = (w'.draw most st').1 ∧ R n (w.draw most st).2 (w'.draw most st').2
  sleep : ∀ {n st st'} ms, R n st st' → R n (w.sleep ms st) (w'.sleep ms st')

structure Abreast (R : Nat → σ → τ → Prop) (n : Nat) (run : RetryRun σ) (run' : RetryRun τ) :
    Prop where
  attempts : run.attempts = run'.attempts
  waits : run.waits = run'.waits
  states : R (n + run.attempts.length) run.state run'.state
  results : (run.result = none ∧ run'.result = none) ∨
    ∃ e e', run.result = some (.ok e) ∧ run'.result = some (.ok e') ∧ e.Alike e'

variable {R : Nat → σ → τ → Prop} {w : World σ} {w' : World τ} {c : Client σ} {c' : Client τ}
  {p : RetryPolicy} {r : Request} {n : Nat} {st : σ} {st' : τ}

theorem Abreast.single {e e' : Exchange} (alike : e.Alike e') (attempt : UInt32)
    (related : R (n + 1) st st') :
    Abreast R n (.single attempt (some (.ok e)) st) (.single attempt (some (.ok e')) st') :=
  ⟨rfl, rfl, related, .inr ⟨e, e', rfl, rfl, alike⟩⟩

theorem Abreast.stop (attempt : UInt32) (related : R (n + 1) st st') :
    Abreast R n (.single attempt none st) (.single attempt none st') :=
  ⟨rfl, rfl, related, .inl ⟨rfl, rfl⟩⟩

theorem Abreast.after {run : RetryRun σ} {run' : RetryRun τ} (h : Abreast R (n + 1) run run')
    (attempt : UInt32) (wait : UInt64) :
    Abreast R n (run.after attempt wait) (run'.after attempt wait) where
  attempts := congrArg (attempt :: ·) h.attempts
  waits := congrArg (wait :: ·) h.waits
  states := by
    have length : n + (attempt :: run.attempts).length = n + 1 + run.attempts.length := by
      simp [Nat.add_comm, Nat.add_left_comm]
    exact length ▸ h.states
  results := h.results

theorem Lockstep.drawDelay (h : Lockstep R w w' c c' r) (p : RetryPolicy) (retry : UInt32)
    (related : R n st st') :
    (drawDelay w p retry st).1 = (drawDelay w' p retry st').1 ∧
      R n (drawDelay w p retry st).2 (drawDelay w' p retry st').2 := by
  unfold Retry.drawDelay
  split
  · exact ⟨rfl, related⟩
  · obtain ⟨same, related⟩ := h.draw p.jitter related
    exact ⟨congrArg (p.delay retry) same, related⟩

theorem Lockstep.runFrom (h : Lockstep R w w' c c' r) (p : RetryPolicy) (attempt : UInt32)
    (related : R n st st') :
    Abreast R n (runFrom w c p r attempt st).value (runFrom w' c' p r attempt st').value := by
  -- along the first run: the second one ends where it ends, as no message decides it
  revert n st'
  apply runFrom_induct (w := w) (c := c) (p := p) (r := r) (motive := fun attempt st run =>
    ∀ {n st'}, R n st st' → Abreast R n run (Retry.runFrom w' c' p r attempt st').value)
  case fault =>
    intro attempt st f after call n st' related
    obtain ⟨e, _, _, _, call', -⟩ := h.call attempt related
    cases call.symm.trans call'
  case last =>
    intro attempt st e after call last n st' related
    obtain ⟨_, e', _, after', same, call', alike, related⟩ := h.call attempt related
    cases call.symm.trans same
    have kind := alike.classify alike.response.status p attempt
    rw [runFrom_last call' (kind ▸ last)]
    exact .single alike attempt related
  case stop =>
    intro attempt st e after call again stop n st' related
    obtain ⟨_, e', _, after', same, call', alike, related⟩ := h.call attempt related
    cases call.symm.trans same
    have kind := alike.classify alike.response.status p attempt
    obtain ⟨wait, related⟩ := h.drawDelay p attempt related
    rw [runFrom_stop call' (kind.symm.trans again) (stop.imp_left fun none => wait.symm.trans none)]
    exact .stop attempt related
  case again =>
    intro attempt st e after wait before run call again drawn few rest n st' related
    obtain ⟨_, e', _, after', same, call', alike, related⟩ := h.call attempt related
    cases call.symm.trans same
    have kind := alike.classify alike.response.status p attempt
    obtain ⟨waits, related⟩ := h.drawDelay p attempt related
    rw [drawn] at waits related
    rw [runFrom_again call' (kind.symm.trans again) (Prod.ext waits.symm rfl) few]
    exact (rest (h.sleep _ related)).after ..

end Lockstep

section Backends

variable {σ : Type} {w : World σ} {i j : Implementation} {r : Request}

def note (i : Implementation) (r : Request) (call : Time.Moment × String) :
    Time.Moment × Submission :=
  (call.1, i.sent (i.handed call.2 r))

def SameCalls (i j : Implementation) (r : Request) (n : Nat)
    (s s' : σ × List (Time.Moment × Submission)) : Prop :=
  s.1 = s'.1 ∧ ∃ calls : List (Time.Moment × String),
    calls.length = n ∧ s.2 = calls.map (note i r) ∧ s'.2 = calls.map (note j r)

theorem call_noting {st before after : σ} {boundary : String} {outcome : Outcome}
    (draws : w.boundary st = (boundary, before))
    (sends : w.send (i.sent (i.handed boundary r)) before = (outcome, after))
    (accepted : i.Accepts (i.handed boundary r)) (settings : ClientSettings) (attempt : UInt32)
    (notes : List (Time.Moment × Submission)) :
    ∃ response, ((Client.of w.noting i settings).call r attempt (st, notes)).value =
        (settings.exchange r response (w.elapsed st after) (w.now st) attempt,
          (after, notes ++ [note i r (w.now before, boundary)])) ∧
      response.Alike outcome.response := by
  have draws' : w.noting.boundary (st, notes) = (boundary, (before, notes)) := by
    simp only [World.noting, World.beside, draws]
  have sends' : w.noting.send (i.sent (i.handed boundary r)) (before, notes) =
      (outcome, (after, notes ++ [note i r (w.now before, boundary)])) := by
    simp only [World.noting, sends, note]
  obtain ⟨response, responds, alike⟩ := Client.respond_accepted draws' sends' accepted
  refine ⟨response, ?_, alike⟩
  simp only [Client.of, Client.attempt, Logged.value_bind, Logged.value_pure, responds]
  rfl

theorem lockstep (blind : w.Blind) (settings : ClientSettings)
    (accepted : ∀ st, i.Accepts (i.handed (w.boundary st).1 r) ∧
      j.Accepts (j.handed (w.boundary st).1 r)) :
    Lockstep (SameCalls i j r) w.noting w.noting (.of w.noting i settings)
      (.of w.noting j settings) r where
  call := by
    rintro n ⟨st, notes⟩ ⟨st', notes'⟩ attempt ⟨same, calls, length, noted, noted'⟩
    cases same
    obtain ⟨accepted, accepted'⟩ := accepted st
    -- both calls draw one boundary and get one outcome, whatever each of them sends
    generalize draws : w.boundary st = drawn at accepted accepted'
    obtain ⟨boundary, before⟩ := drawn
    generalize sends : w.send (i.sent (i.handed boundary r)) before = came
    obtain ⟨outcome, after⟩ := came
    have sends' := (blind (j.sent (j.handed boundary r)) _ before).trans sends
    obtain ⟨response, call, alike⟩ := call_noting draws sends accepted settings attempt notes
    obtain ⟨response', call', alike'⟩ := call_noting draws sends' accepted' settings attempt notes'
    have status : 0 ≤ response.status := alike.status ▸ outcome.status_response
    obtain ⟨e, e', ok, ok', same⟩ := (alike.trans alike'.symm).exchange status settings r
      (w.elapsed st after) (w.now st) attempt
    rw [ok] at call
    rw [ok'] at call'
    refine ⟨e, e', _, _, call, call', same, rfl, calls ++ [(w.now before, boundary)], ?_, ?_, ?_⟩
    · simp [length]
    · simpa using noted
    · simpa using noted'
  draw := by
    rintro n ⟨st, notes⟩ ⟨st', notes'⟩ most ⟨same, calls⟩
    cases same
    exact ⟨rfl, rfl, calls⟩
  sleep := by
    rintro n ⟨st, notes⟩ ⟨st', notes'⟩ ms ⟨same, calls⟩
    cases same
    exact ⟨rfl, calls⟩

/-- Where both libraries accept a request, and the same comes back to both, it makes no difference
which of them is called: they are handed the same at the same times, as often and with the same waits
in between, and what they give back differs in the message of the response only. Where something is
too large to be counted, neither of them gives a result. -/
theorem run_backends_alike (w : World σ) (blind : w.Blind) (settings : ClientSettings)
    (p : RetryPolicy) (r : Request) (st : σ)
    (accepted : ∀ st,
      Implementation.Accepts .lenient (Implementation.handed .lenient (w.boundary st).1 r) ∧
      Implementation.Accepts .strict (Implementation.handed .strict (w.boundary st).1 r)) :
    let lenient := (run w.noting (.of w.noting .lenient settings) p r (st, [])).value
    let strict := (run w.noting (.of w.noting .strict settings) p r (st, [])).value
    (∃ calls : List (Time.Moment × String), calls.length = lenient.attempts.length ∧
      lenient.state.2 = calls.map (note .lenient r) ∧ strict.state.2 = calls.map (note .strict r)) ∧
    (∀ boundary, (Implementation.handed .lenient boundary r).lowered =
      (Implementation.handed .strict boundary r).lowered) ∧
    lenient.attempts = strict.attempts ∧ lenient.waits = strict.waits ∧
    ((lenient.result = none ∧ strict.result = none ∧ ¬ p.Fits) ∨
      ∃ e e', lenient.result = some (.ok e) ∧ strict.result = some (.ok e') ∧ e.Alike e') ∧
    (p.jitter = 0 → p.maxRetries.toNat < UInt32.size - 1 → p.Fits) := by
  have none : SameCalls .lenient .strict r 0 (st, []) (st, []) := ⟨rfl, [], rfl, rfl, rfl⟩
  obtain ⟨attempts, waits, ⟨-, calls, length, noted⟩, results⟩ :=
    (lockstep blind settings accepted).runFrom p firstAttempt none
  rw [Nat.zero_add] at length
  refine ⟨⟨calls, length, noted⟩, fun boundary => Implementation.handed_lowered boundary r, attempts,
    waits, results.imp_left fun ⟨none, none'⟩ => ⟨none, none', fun fits => ?_⟩,
    fun steady few => .of_no_jitter (by omega) steady⟩
  have some := run_of_fits (w := w.noting) (c := .of w.noting .lenient settings) fits r (st, [])
  rw [run, none] at some
  cases some

def secondTimeWorld : World Nat :=
  { clockWorld with
    send := fun _ sent =>
      (.reply (if sent = 0 then ⟨503, none, [], []⟩ else ⟨200, some "Fine", [], []⟩), sent + 1)
    boundary := fun sent => ("b", sent) }

def formRequest : Request :=
  (Request.new "http://a/" .post).withForm (.ofList [("name", "value")])

theorem run_backends_alike_second :
    let ran := fun i => (run secondTimeWorld.noting (.of secondTimeWorld.noting i .default)
      .default formRequest (0, [])).value
    secondTimeWorld.Blind ∧
    (∀ st, Implementation.Accepts .lenient
        (Implementation.handed .lenient (secondTimeWorld.boundary st).1 formRequest) ∧
      Implementation.Accepts .strict
        (Implementation.handed .strict (secondTimeWorld.boundary st).1 formRequest)) ∧
    (ran .lenient).attempts = [1, 2] ∧ (ran .strict).attempts = [1, 2] ∧
    ∃ e e', (ran .lenient).result = some (.ok e) ∧ (ran .strict).result = some (.ok e') ∧
      e.Alike e' ∧ e.response.message = "Fine" ∧ e'.response.message = "OK" := by
  intro ran
  have blind : secondTimeWorld.Blind := fun _ _ _ => rfl
  have accepts : Implementation.Accepts .lenient (Implementation.handed .lenient "b" formRequest) ∧
      Implementation.Accepts .strict (Implementation.handed .strict "b" formRequest) := by
    decide +kernel
  obtain ⟨-, -, attempts, -, results, -⟩ :=
    run_backends_alike secondTimeWorld blind .default .default formRequest 0 fun _ => accepts
  have fits : RetryPolicy.default.Fits := ⟨by decide, by decide +kernel⟩
  obtain ⟨e, e', ok, ok', alike⟩ := results.resolve_left fun ⟨_, _, unfit⟩ => unfit fits
  have twice : (ran .lenient).attempts = [1, 2] := by decide +kernel
  have messages : (ran .lenient).result.map (·.map (·.response.message)) = some (.ok "Fine") ∧
      (ran .strict).result.map (·.map (·.response.message)) = some (.ok "OK") := by
    decide +kernel
  refine ⟨blind, fun _ => accepts, twice, attempts.symm.trans twice, e, e', ok, ok', alike, ?_⟩
  simpa only [ran, ok, ok', Option.map_some, Except.map, Option.some.injEq, Except.ok.injEq]
    using messages

/-- With the largest number of retries neither of them gives a result, though the second call would
be the last one. -/
theorem run_backends_stop :
    let ran := fun i => (run secondTimeWorld.noting (.of secondTimeWorld.noting i .default)
      mostRetries formRequest (0, [])).value
    mostRetries.jitter = 0 ∧
    ∀ i, Implementation.Accepts i (Implementation.handed i "b" formRequest) ∧
      (ran i).attempts = [1] ∧ (ran i).result.isNone := by
  refine ⟨rfl, fun i => ?_⟩
  cases i with
  | lenient => decide +kernel
  | strict => decide +kernel

end Backends

end Retry

end HttpBridge
