import HttpBridge.Client.Call
import HttpBridge.Retry.Policy

namespace HttpBridge

/-- A run of calls: what each attempt was numbered, how long was waited between them, and the last
result. There is none where a wait or a number of attempts is too large to be counted. -/
structure RetryRun (σ : Type) where
  attempts : List UInt32
  waits : List UInt64
  result : Option (Except ExchangeFault Exchange)
  state : σ

namespace RetryRun

variable {σ : Type}

def single (attempt : UInt32) (result : Option (Except ExchangeFault Exchange)) (state : σ) :
    RetryRun σ :=
  ⟨[attempt], [], result, state⟩

def after (attempt : UInt32) (wait : UInt64) (run : RetryRun σ) : RetryRun σ :=
  { run with attempts := attempt :: run.attempts, waits := wait :: run.waits }

end RetryRun

namespace Retry

variable {σ : Type}

def warnRetry (r : Request) (e : Exchange) (next all : UInt32) (wait : UInt64) : Logged Unit :=
  .warn s!"Request to {r.url} failed with status {e.response.status}, retrying attempt {next}/{all} in {wait}ms"

def noteSuccess (r : Request) (attempt : UInt32) : Logged Unit :=
  .debug s!"Request to {r.url} succeeded after {attempt} attempt(s)"

def noteFailure (r : Request) (e : Exchange) (attempt : UInt32) : Logged Unit :=
  .debug s!"Request to {r.url} failed with status {e.response.status} after {attempt} attempt(s)"

def drawDelay (w : World σ) (p : RetryPolicy) (retry : UInt32) (st : σ) : Option UInt64 × σ :=
  if retry = 0 || p.jitter = 0 then (p.delay retry 0, st)
  else
    let (draw, st) := w.draw p.jitter st
    (p.delay retry draw, st)

def runFrom (w : World σ) (c : Client σ) (p : RetryPolicy) (r : Request) (attempt : UInt32)
    (st : σ) : Logged (RetryRun σ) := do
  let (result, st) ← c.call r attempt st
  match result with
  | .error f => return .single attempt (some (.error f)) st
  | .ok e =>
    match p.classify e attempt with
    | .retryable =>
      let (wait, st) := drawDelay w p attempt st
      -- the warning counts the next call and all calls, so a run stops where it can not
      match wait, _later : next? attempt, next? p.maxRetries with
      | some wait, some next, some all =>
        warnRetry r e next all wait
        return (← runFrom w c p r next (w.sleep wait st)).after attempt wait
      | _, _, _ => return .single attempt none st
    | .success =>
      noteSuccess r attempt
      return .single attempt (some (.ok e)) st
    | .terminal =>
      noteFailure r e attempt
      return .single attempt (some (.ok e)) st
termination_by UInt32.size - attempt.toNat
decreasing_by
  have := next?_eq_some.mp _later
  have := next.toNat_lt_size
  omega

def run (w : World σ) (c : Client σ) (p : RetryPolicy) (r : Request) (st : σ) :
    Logged (RetryRun σ) :=
  runFrom w c p r firstAttempt st

end Retry

end HttpBridge
