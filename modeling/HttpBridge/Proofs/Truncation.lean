import HttpBridge.Proofs.Retry

namespace HttpBridge

variable {σ : Type}

section Texts

/-- Says that the beginning of a text is kept: all of it, or as many characters as a limit allows. -/
structure Begins (limit : Option UInt64) (whole kept : String) : Prop where
  start : kept.toList <+: whole.toList
  length : kept.length = match limit with
    | none => whole.length
    | some n => min n.toNat whole.length

theorem truncate_begins (limit : Option UInt64) (s : String) :
    Begins limit s (truncate limit s) := by
  cases limit with
  | none => exact ⟨List.prefix_rfl, rfl⟩
  | some n =>
    constructor
    · rw [toList_truncate]
      exact List.take_prefix ..
    · rw [← String.length_toList, toList_truncate, List.length_take, String.length_toList]

/-- What is counted are characters, not bytes. -/
example : truncate (some 2) "réponse" = "ré" := by decide +kernel

structure Truncation.Keeps (limits : Truncation) (whole kept : Response) : Prop where
  message : Begins limits.message whole.message kept.message
  body : Begins limits.body whole.body kept.body

theorem Truncation.apply_keeps (limits : Truncation) (r : Response) :
    limits.Keeps r (limits.apply r) :=
  ⟨truncate_begins .., truncate_begins ..⟩

end Texts

namespace Exchange

def cut (limits : Truncation) (e : Exchange) : Exchange :=
  { e with response := limits.apply e.response }

theorem cut_sameButTexts (limits limits' : Truncation) (e : Exchange) :
    (e.cut limits).SameButTexts (e.cut limits') :=
  ⟨rfl, ⟨rfl, rfl⟩, rfl, rfl, rfl, rfl⟩

theorem classify_cut (limits : Truncation) (e : Exchange) (p : RetryPolicy) (attempts : UInt32) :
    p.classify (e.cut limits) attempts = p.classify e attempts := rfl

end Exchange

namespace ClientSettings

def limited (c : ClientSettings) (limits : Truncation) : ClientSettings :=
  { c with truncation := limits }

def unlimited (c : ClientSettings) : ClientSettings :=
  c.limited ⟨none, none⟩

theorem exchange_limited (c : ClientSettings) (limits : Truncation) (request : Request)
    (response : Response) (duration : Time.Duration) (moment : Time.Moment) (attempts : UInt32) :
    (c.limited limits).exchange request response duration moment attempts =
      (c.unlimited.exchange request response duration moment attempts).map (.cut limits) := by
  by_cases accepted : 0 ≤ response.status
  · simp only [exchange, ExchangeDraft.build, limited, unlimited, Truncation.apply, accepted,
      ↓reduceDIte]
    rfl
  · simp only [exchange, ExchangeDraft.build, limited, unlimited, Truncation.apply, accepted,
      ↓reduceDIte]
    rfl

theorem exchange_unlimited_keeps {c : ClientSettings} {request : Request} {response : Response}
    {duration : Time.Duration} {moment : Time.Moment} {attempts : UInt32} {e : Exchange}
    (h : c.unlimited.exchange request response duration moment attempts = .ok e)
    (limits : Truncation) : limits.Keeps response (e.cut limits).response := by
  obtain ⟨-, whole, -, -, -⟩ := exchange_ok h
  change limits.Keeps response (limits.apply e.response)
  rw [whole]
  exact limits.apply_keeps response

end ClientSettings

structure Raw where
  response : Response
  duration : Time.Duration
  moment : Time.Moment

abbrev Transport (σ : Type) := Request → UInt32 → σ → Logged (Raw × σ)

namespace Client

def through (name : String) (t : Transport σ) (c : ClientSettings) : Client σ where
  name
  settings := c
  call r attempt st := do
    let (raw, st) ← t r attempt st
    return (c.exchange r raw.response raw.duration raw.moment attempt, st)

def transport (w : World σ) (i : Implementation) : Transport σ := fun r attempts before => do
  .debug s!"Calling {r.method.name} {r.url} (attempt {attempts})"
  let (response, after) ← respond w i r before
  return (⟨response, w.elapsed before after, w.now before⟩, after)

theorem of_eq_through (w : World σ) (i : Implementation) (c : ClientSettings) :
    Client.of w i c = .through i.name (transport w i) c := by
  unfold Client.of through attempt transport
  simp [bind, Logged.bind, pure, Logged.pure]

end Client

namespace RetryRun

def cut (limits : Truncation) (run : RetryRun σ) : RetryRun σ :=
  { run with result := run.result.map (·.map (.cut limits)) }

end RetryRun

namespace Retry

variable {w : World σ} {p : RetryPolicy} {r : Request}

/-- Whatever is cut in each attempt can as well be cut at the end. -/
theorem runFrom_cut {c whole : Client σ} {limits : Truncation}
    (cuts : ∀ {attempt st result st'}, (whole.call r attempt st).value = (result, st') →
      (c.call r attempt st).value = (result.map (.cut limits), st'))
    (attempt : UInt32) (st : σ) :
    (runFrom w c p r attempt st).value = ((runFrom w whole p r attempt st).value).cut limits := by
  apply runFrom_induct (w := w) (c := whole) (p := p) (r := r) (motive := fun attempt st run =>
    (runFrom w c p r attempt st).value = run.cut limits)
  case fault => exact fun h => runFrom_fault (cuts h)
  case last => exact fun h hk => runFrom_last (cuts h) (by rwa [Exchange.classify_cut])
  case stop => exact fun h hk => runFrom_stop (cuts h) (by rwa [Exchange.classify_cut])
  case again =>
    intro attempt st e st' wait st'' run h hk drawn few rest
    rw [runFrom_again (cuts h) ((Exchange.classify_cut ..).trans hk) drawn few, rest]
    rfl

theorem run_limited (w : World σ) (name : String) (t : Transport σ) (c : ClientSettings)
    (limits : Truncation) (p : RetryPolicy) (r : Request) (st : σ) :
    (run w (.through name t (c.limited limits)) p r st).value =
      ((run w (.through name t c.unlimited) p r st).value).cut limits := by
  apply runFrom_cut
  intro attempt st result st' h
  simp only [Client.through, Logged.value_bind, Logged.value_pure, Prod.mk.injEq] at h ⊢
  obtain ⟨rfl, rfl⟩ := h
  exact ⟨c.exchange_limited .., rfl⟩

end Retry

section Noted

structure Noted where
  moment : Time.Moment
  request : Request
  attempt : UInt32
  raw : Raw

def Transport.noting (w : World σ) (t : Transport σ) : Transport (σ × List Noted) :=
  fun r attempt st => do
    let (raw, after) ← t r attempt st.1
    return (raw, (after, st.2 ++ [⟨w.now st.1, r, attempt, raw⟩]))

namespace Retry

structure Notes (c : ClientSettings) (r : Request) (before calls : List Noted) (last : Noted)
    (run : RetryRun (σ × List Noted)) : Prop where
  noted : run.state.2 = before ++ calls ++ [last]
  attempts : run.attempts = (calls ++ [last]).map (·.attempt)
  requests : ∀ call ∈ calls ++ [last], call.request = r
  result : ∀ result, run.result = some result → result =
    c.exchange r last.raw.response last.raw.duration last.raw.moment last.attempt

section

variable {w : World σ} {name : String} {t : Transport σ} {c : ClientSettings} {r : Request}
  {attempt : UInt32} {st st' : σ × List Noted} {result : Except ExchangeFault Exchange}

theorem call_notes
    (h : ((Client.through name (t.noting w) c).call r attempt st).value = (result, st')) :
    ∃ last : Noted, last.attempt = attempt ∧ last.request = r ∧ st'.2 = st.2 ++ [last] ∧
      result = c.exchange r last.raw.response last.raw.duration last.raw.moment last.attempt := by
  simp only [Client.through, Transport.noting, Logged.value_bind, Logged.value_pure,
    Prod.mk.injEq] at h
  obtain ⟨rfl, rfl⟩ := h
  exact ⟨_, rfl, rfl, rfl, rfl⟩

theorem Notes.single {st'' : σ × List Noted} {kept : Option (Except ExchangeFault Exchange)}
    (h : ((Client.through name (t.noting w) c).call r attempt st).value = (result, st'))
    (same : st''.2 = st'.2) (own : ∀ given, kept = some given → given = result) :
    ∃ calls last, Notes c r st.2 calls last (.single attempt kept st'') := by
  obtain ⟨last, rfl, requested, noted, made⟩ := call_notes h
  refine ⟨[], last, ?_, rfl, ?_, fun given known => (own given known).trans made⟩
  · rw [List.append_nil]
    exact same.trans noted
  · intro call member
    rw [List.mem_singleton.mp member]
    exact requested

theorem Notes.after {first last : Noted} {before calls : List Noted}
    {run : RetryRun (σ × List Noted)} (h : Notes c r (before ++ [first]) calls last run)
    (requested : first.request = r) (wait : UInt64) :
    Notes c r before (first :: calls) last (run.after first.attempt wait) where
  noted := by simpa [RetryRun.after] using h.noted
  attempts := by simpa [RetryRun.after] using h.attempts
  requests := List.forall_mem_cons.mpr ⟨requested, h.requests⟩
  result := h.result

end

theorem runFrom_notes (w : World σ) (name : String) (t : Transport σ) (c : ClientSettings)
    (p : RetryPolicy) (r : Request) (attempt : UInt32) (st : σ × List Noted) :
    ∃ calls last, Notes c r st.2 calls last
      (runFrom w.beside (.through name (t.noting w) c) p r attempt st).value := by
  apply runFrom_induct (motive := fun _ st run => ∃ calls last, Notes c r st.2 calls last run)
  case fault => exact fun h => Notes.single h rfl fun _ => Eq.symm ∘ Option.some.inj
  case last => exact fun h _ => Notes.single h rfl fun _ => Eq.symm ∘ Option.some.inj
  case stop => exact fun h _ _ => Notes.single h (drawDelay_beside ..) fun _ => nofun
  case again =>
    intro attempt st e st' wait st'' run h _ drawn _ ⟨calls, last, rest⟩
    obtain ⟨first, rfl, requested, noted, -⟩ := call_notes h
    have between : (w.beside.sleep wait st'').2 = st.2 ++ [first] := by
      have same := drawDelay_beside w p first.attempt st'
      rw [drawn] at same
      exact same.trans noted
    rw [between] at rest
    exact ⟨_, _, rest.after requested _⟩

/-- A run is the same whatever the limits of its client are: it makes the same attempts at the same
times, and gives back the same fault, or exchanges that are the same but for their texts. Message
and body are those of what came back to the last attempt, each up to its own limit. Where something
is too large to be counted, there is no result whatever the limits are. The clients that settings can
name all are such clients. -/
theorem run_whatever_limits (name : String) (w : World σ) (t : Transport σ) (c : ClientSettings)
    (p : RetryPolicy) (r : Request) (st : σ) (limits limits' : Truncation) :
    let ran := fun limits : Truncation =>
      (run w.beside (.through name (t.noting w) (c.limited limits)) p r (st, [])).value
    (ran limits).attempts = (ran limits').attempts ∧ (ran limits).waits = (ran limits').waits ∧
    (ran limits).state = (ran limits').state ∧
    (∃ calls last, (ran limits).state.2 = calls ++ [last] ∧
      (ran limits).attempts = (calls ++ [last]).map (·.attempt) ∧
      (∀ call ∈ calls ++ [last], call.request = r) ∧
      (((ran limits).result = none ∧ (ran limits').result = none ∧ ¬ p.Fits) ∨
        (∃ f, (ran limits).result = some (.error f) ∧ (ran limits').result = some (.error f)) ∨
        ∃ e e', (ran limits).result = some (.ok e) ∧ (ran limits').result = some (.ok e') ∧
          e.SameButTexts e' ∧ limits.Keeps last.raw.response e.response ∧
          limits'.Keeps last.raw.response e'.response)) ∧
    (∀ i, Client.of w i c = .through i.name (Client.transport w i) c) ∧
    (p.jitter = 0 → p.maxRetries.toNat < UInt32.size - 1 → p.Fits) := by
  intro ran
  have cut : ∀ limits, ran limits = (ran ⟨none, none⟩).cut limits :=
    fun limits => run_limited w.beside name (t.noting w) c limits p r (st, [])
  obtain ⟨calls, last, notes⟩ := runFrom_notes w name t c.unlimited p r firstAttempt (st, [])
  rw [cut limits, cut limits']
  refine ⟨rfl, rfl, rfl, ⟨calls, last, notes.noted, notes.attempts, notes.requests, ?_⟩,
    fun i => Client.of_eq_through w i c, fun steady few => .of_no_jitter (by omega) steady⟩
  simp only [RetryRun.cut]
  cases made : (ran ⟨none, none⟩).result with
  | none =>
    refine .inl ⟨rfl, rfl, fun fits => ?_⟩
    have some := run_of_fits (w := w.beside)
      (c := .through name (t.noting w) (c.limited ⟨none, none⟩)) fits r (st, [])
    rw [made] at some
    cases some
  | some result =>
    cases result with
    | error f => exact .inr (.inl ⟨f, rfl, rfl⟩)
    | ok e =>
      have keeps := ClientSettings.exchange_unlimited_keeps (notes.result _ made).symm
      exact .inr (.inr ⟨e.cut limits, e.cut limits', rfl, rfl, e.cut_sameButTexts .., keeps limits,
        keeps limits'⟩)

/-- With the largest number of retries there is no result, whatever the limits are, though the first
call is not the last one. -/
theorem run_stops_whatever_limits : mostRetries.jitter = 0 ∧ ∀ limits : Truncation,
    let run := (run clockWorld (.through "dead" (Client.transport clockWorld .lenient)
      (ClientSettings.default.limited limits)) mostRetries (.get "http://a") 0).value
    run.attempts = [1] ∧ run.result = none := by
  refine ⟨rfl, fun limits => ?_⟩
  rw [run_limited]
  have whole : let run := (run clockWorld (.through "dead" (Client.transport clockWorld .lenient)
      ClientSettings.default.unlimited) mostRetries (.get "http://a") 0).value
      run.attempts = [1] ∧ run.result.isNone := by
    decide +kernel
  obtain ⟨once, none⟩ := whole
  refine ⟨once, ?_⟩
  rw [RetryRun.cut, Option.isNone_iff_eq_none.mp none]
  rfl

end Retry

end Noted

end HttpBridge
