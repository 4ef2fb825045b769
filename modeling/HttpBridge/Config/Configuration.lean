import HttpBridge.Client.Call
import HttpBridge.Config.Predicate
import HttpBridge.Retry.Run
import HttpBridge.Text.Quoted

namespace HttpBridge

inductive Matcher
  | predicate (p : RequestPredicate)
  | test (holds : Request → Bool)

def Matcher.isMatch : Matcher → Request → Bool
  | predicate p, r => p.isMatch r
  | test holds, r => holds r

structure Configuration (σ : Type) where
  id : String
  matcher : Matcher
  client : Client σ
  policy : RetryPolicy

namespace Configuration

variable {σ : Type}

def new (id : String) (client : Client σ) : Configuration σ :=
  ⟨id, .predicate .any, client, .default⟩

def withMatcher (c : Configuration σ) (matcher : Matcher) : Configuration σ :=
  { c with matcher }

def withPolicy (c : Configuration σ) (policy : RetryPolicy) : Configuration σ :=
  { c with policy }

def ofSettings (w : World σ) (files : Files) (id : String) (s : Settings) :
    Setup (Configuration σ) := do
  let client ← Client.ofSettings w files id s
  let predicate ← Setup.ofExcept (RequestPredicate.ofSettings s)
  let policy ← Setup.ofExcept (RetryPolicy.ofSettings s)
  return ⟨id, .predicate predicate, client, policy⟩

def isMatch (c : Configuration σ) (r : Request) : Bool :=
  c.matcher.isMatch r

def call (w : World σ) (c : Configuration σ) (r : Request) (st : σ) : Logged (RetryRun σ) :=
  Retry.run w c.client c.policy r st

end Configuration

def RetryPolicy.describe (p : RetryPolicy) : String :=
  "RetryPolicy \x7b max_retries: " ++ toString p.maxRetries
    ++ ", base_delay_ms: " ++ toString p.baseDelay
    ++ ", max_delay_ms: " ++ toString p.maxDelay
    ++ ", delay_factor: " ++ Decimal.marked p.factor
    ++ ", jitter_ms: " ++ toString p.jitter
    ++ ", retry_response_code: Regex(" ++ Text.quote p.retried.text ++ ") \x7d"

def Configuration.describe {σ : Type} (c : Configuration σ) : String :=
  "Configuration \x7b id: " ++ Text.quote c.id ++ ", client: " ++ Text.quote c.client.name
    ++ ", retry_policy: " ++ c.policy.describe ++ " \x7d"

end HttpBridge
