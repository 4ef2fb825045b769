import HttpBridge.Client.Settings
import HttpBridge.Decimal.Shortest

namespace HttpBridge

structure RetryPolicy where
  maxRetries : UInt32
  baseDelay : UInt64
  maxDelay : UInt64
  factor : Float
  jitter : UInt64
  retried : Pattern

inductive AttemptOutcome
  | success
  | retryable
  | terminal
  deriving DecidableEq, Repr

def firstAttempt : UInt32 := 1

def next? (n : UInt32) : Option UInt32 :=
  if n.toNat + 1 < UInt32.size then some (n + 1) else none

theorem next?_eq_some {n next : UInt32} : next? n = some next ↔ next.toNat = n.toNat + 1 := by
  have small := next.toNat_lt_size
  unfold next?
  split
  · rename_i fits
    have value : (n + 1).toNat = n.toNat + 1 := (UInt32.toNat_add ..).trans (Nat.mod_eq_of_lt fits)
    rw [Option.some.injEq, ← UInt32.toNat_inj, value, eq_comm]
  · rename_i full
    exact iff_of_false nofun fun value => full (value ▸ small)

theorem next?_eq_none {n : UInt32} : next? n = none ↔ UInt32.size ≤ n.toNat + 1 := by
  rw [next?, ite_eq_right_iff, ← Nat.not_lt]
  exact forall_congr' fun _ => iff_of_false nofun id

def sum? (a b : UInt64) : Option UInt64 :=
  if a.toNat + b.toNat < UInt64.size then some (a + b) else none

theorem sum?_eq_some {a b c : UInt64} : sum? a b = some c ↔ c.toNat = a.toNat + b.toNat := by
  have small := c.toNat_lt_size
  unfold sum?
  split
  · rename_i fits
    have value : (a + b).toNat = a.toNat + b.toNat :=
      (UInt64.toNat_add ..).trans (Nat.mod_eq_of_lt fits)
    rw [Option.some.injEq, ← UInt64.toNat_inj, value, eq_comm]
  · rename_i full
    exact iff_of_false nofun fun value => full (value ▸ small)

theorem sum?_eq_none {a b : UInt64} : sum? a b = none ↔ UInt64.size ≤ a.toNat + b.toNat := by
  rw [sum?, ite_eq_right_iff, ← Nat.not_lt]
  exact forall_congr' fun _ => iff_of_false nofun id

def retriesBefore (attempts : UInt32) : UInt32 :=
  if attempts = 0 then 0 else attempts - 1

/-- Raises to a power by repeated squaring: `r` times `a` to the power `n`. -/
def powerFrom : Nat → Float → Float → Nat → Float
  | 0, r, _, _ => r
  | fuel + 1, r, a, n =>
    let r := if n % 2 = 1 then r * a else r
    if n / 2 = 0 then r else powerFrom fuel r (a * a) (n / 2)

def power (a : Float) (n : Int32) : Float :=
  let r := powerFrom 32 1 a n.toInt.natAbs
  if n < 0 then 1 / r else r

/-- Gives the smaller number; what is no number does not count. -/
def smaller (a b : Float) : Float :=
  if a.isNaN then b else if b.isNaN then a else if a < b then a else b

namespace RetryPolicy

def retriesKey := "retry.policy.retries"
def patternKey := "retry.policy.response.code.regex"
def delayKey := "retry.policy.retry.delay.in.ms"
def maxDelayKey := "retry.policy.max.retry.delay.in.ms"
def factorKey := "retry.policy.retry.delay.factor"
def jitterKey := "retry.policy.retry.jitter.in.ms"

def defaultRetried : Pattern :=
  .known "^5[0-9][0-9]$" rfl

def default : RetryPolicy :=
  ⟨1, 2000, 20000, 1.5, 500, defaultRetried⟩

instance : Inhabited RetryPolicy := ⟨default⟩

def none : RetryPolicy :=
  { default with maxRetries := 0 }

def exponential (maxRetries : UInt32) (baseDelay : UInt64) : RetryPolicy :=
  { default with maxRetries, baseDelay, factor := 2 }

def fixed (maxRetries : UInt32) (delay : UInt64) : RetryPolicy :=
  ⟨maxRetries, delay, delay, 1, 0, defaultRetried⟩

def ofSettings (s : Settings) : Except ConfigFault RetryPolicy := do
  let maxRetries ← s.parsedOr retriesKey .uint32 default.maxRetries
  let baseDelay ← s.parsedOr delayKey .uint64 default.baseDelay
  let maxDelay ← s.parsedOr maxDelayKey .uint64 default.maxDelay
  let factor ← s.parsedOr factorKey .float default.factor
  let jitter ← s.parsedOr jitterKey .uint64 default.jitter
  if factor < 1 then
    throw (.invalidValue factorKey (Decimal.plain factor) "delay factor must be >= 1.0")
  let retried ← s.pattern patternKey
  return ⟨maxRetries, baseDelay, maxDelay, factor, jitter, retried.getD defaultRetried⟩

def exponent (retry : UInt32) : Int32 :=
  (retry - 1).toInt32

def growth (p : RetryPolicy) (retry : UInt32) : Float :=
  power p.factor (exponent retry)

def cappedDelay (p : RetryPolicy) (retry : UInt32) : UInt64 :=
  let grown := p.baseDelay.toFloat * p.growth retry
  (smaller grown p.maxDelay.toFloat).toUInt64

/-- Gives the delay before a retry in milliseconds, if there are not too many; `draw` are the random
ones. -/
def delay (p : RetryPolicy) (retry : UInt32) (draw : UInt64) : Option UInt64 :=
  if retry = 0 then some 0 else sum? (p.cappedDelay retry) draw

def retriesStatus (p : RetryPolicy) (status : Int32) : Bool :=
  p.retried.isMatch (toString status)

def retries (p : RetryPolicy) (r : Response) : Bool :=
  r.isTransportFailure || p.retriesStatus r.status

def classify (p : RetryPolicy) (e : Exchange) (attempts : UInt32) : AttemptOutcome :=
  if p.retries e.response && retriesBefore attempts < p.maxRetries then .retryable
  else if e.success then .success
  else .terminal

end RetryPolicy

end HttpBridge
