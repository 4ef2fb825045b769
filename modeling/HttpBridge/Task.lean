import HttpBridge.Config.Registry
import HttpBridge.Metrics

namespace HttpBridge

structure HttpTask (σ : Type) where
  world : World σ
  registry : Registry σ

namespace HttpTask

variable {σ : Type}

def begin (t : HttpTask σ) (m : Metrics) (r : Request) : Metrics :=
  m.call (t.registry.select r).id

/-- Counts the end of a request that was sent; one without an exchange is not counted. `none` is a
sum of durations that is too long. -/
def finish (t : HttpTask σ) (m : Metrics) (r : Request) (result : Except ExchangeFault Exchange)
    (duration : Time.Duration) : Option Metrics :=
  match result with
  | .ok e => m.exchange (t.registry.select r).id e.success duration
  | .error _ => some m

def call (t : HttpTask σ) (r : Request) (st : σ) : Logged (RetryRun σ) := do
  let c := t.registry.select r
  .debug s!"Dispatching {r.method.name} {r.url} with configuration '{c.id}'"
  c.call t.world r st

def submit (t : HttpTask σ) (m : Metrics) (r : Request) (st : σ) :
    Logged (RetryRun σ × Option Metrics) := do
  let run ← t.call r st
  let duration := t.world.elapsed st run.state
  return (run, run.result.bind fun result => t.finish (t.begin m r) r result duration)

end HttpTask

end HttpBridge
