import HttpBridge.Client.Tls
import HttpBridge.Message.Exchange
import HttpBridge.Pattern.Meaning

namespace HttpBridge

namespace ClientSettings

def implementationKey := "httpclient.implementation"
def timeoutKey := "httpclient.call.timeout.ms"
def successKey := "success.response.code.regex"
def messageLimitKey := "http.response.message.status.limit"
def bodyLimitKey := "http.response.body.limit"

def defaultTimeout : UInt64 := 30000

def defaultSuccess : Pattern :=
  .known "^[2-3][0-9][0-9]$" rfl

end ClientSettings

namespace Settings

def pattern (s : Settings) (key : String) : Except ConfigFault (Option Pattern) :=
  match s.get? key with
  | none => .ok none
  | some text =>
    match Pattern.of? text with
    | some p => .ok (some p)
    | none => .error (.invalidPattern key)

end Settings

structure ClientSettings where
  timeoutMillis : UInt64
  truncation : Truncation
  success : Pattern
  tls : Tls

namespace ClientSettings

def default : ClientSettings :=
  ⟨defaultTimeout, ⟨none, none⟩, defaultSuccess, .default⟩

instance : Inhabited ClientSettings := ⟨default⟩

def ofSettings (s : Settings) : Setup ClientSettings := do
  let success ← Setup.ofExcept (s.pattern successKey)
  let timeout ← Setup.ofExcept (s.parsedOr timeoutKey .uint64 defaultTimeout)
  let message ← Setup.ofExcept (s.parsed messageLimitKey .uint64)
  let body ← Setup.ofExcept (s.parsed bodyLimitKey .uint64)
  let tls ← Tls.ofSettings s
  return ⟨timeout, ⟨message, body⟩, success.getD defaultSuccess, tls⟩

def succeeds (c : ClientSettings) (r : Response) : Bool :=
  !r.isTransportFailure && c.success.isMatch r.statusText

def exchange (c : ClientSettings) (request : Request) (response : Response)
    (duration : Time.Duration) (moment : Time.Moment) (attempts : UInt32) :
    Except ExchangeFault Exchange :=
  let draft : ExchangeDraft := {
    request := some request
    response := some (c.truncation.apply response)
    duration
    moment := some moment
    attempts
    success := c.succeeds response }
  draft.build moment

end ClientSettings

/-- The library that a client sends with. The lenient one repairs addresses where it can, and the
strict one refuses them. -/
inductive Implementation
  | lenient
  | strict
  deriving DecidableEq, Repr, Inhabited

namespace Implementation

def name : Implementation → String
  | lenient => "reqwest"
  | strict => "ureq"

def names : List (String × Implementation) :=
  [lenient, strict].map fun i => (i.name, i)

def read (s : String) : Except UnknownVariant Implementation :=
  readName "http client implementation" .lower names s

end Implementation

def Parser.implementation : Parser Implementation :=
  .named Implementation.read

end HttpBridge
