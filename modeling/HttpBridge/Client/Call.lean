import HttpBridge.Client.Settings
import HttpBridge.Client.World

namespace HttpBridge

structure Client (σ : Type) where
  name : String
  settings : ClientSettings
  call : Request → UInt32 → σ → Logged (Except ExchangeFault Exchange × σ)

namespace Client

variable {σ : Type}

def fail (what : String) (r : Request) (reason : String) : Logged Response := do
  .warn (what ++ " " ++ r.url ++ ": " ++ reason)
  return .transportFailure reason

def transportError : String := "Transport error calling"

def bodyError : String := "Cannot read response body from"

def requestError : String := "Invalid request for"

def lenientResponse (r : Request) (url : String) : Outcome → Logged Response
  | .reply reply => return reply.response (reply.reason.getD (Reply.usualReason reply.status))
  | .unsent _ => fail transportError r (Lenient.Fault.unsent url).message
  | .unread _ => fail bodyError r Lenient.Fault.unread.message

def lenient (w : World σ) (r : Request) (st : σ) : Logged (Response × σ) := do
  let (boundary, st) := w.boundary st
  let submission ← Submission.of Lenient.typeName boundary r
  match Lenient.build submission with
  | .error f => return (← fail transportError r f.message, st)
  | .ok built =>
    match Lenient.check built with
    | .error f => return (← fail transportError r f.message, st)
    | .ok () =>
      let (outcome, st) := w.send built.submission st
      return (← lenientResponse r built.url.render outcome, st)

/-- Reads what the strict library gives back; it does not keep unusual reasons. -/
def strictResponse (r : Request) : Outcome → Logged Response
  | .reply reply => return reply.response (Reply.usualReason reply.status)
  | .unsent cause => fail transportError r (Strict.Fault.connection cause).message
  | .unread cause => fail bodyError r (Strict.Fault.connection cause).message

def strict (w : World σ) (r : Request) (st : σ) : Logged (Response × σ) := do
  let (boundary, st) := w.boundary st
  let submission ← Submission.of Strict.typeName boundary r
  match Strict.build submission with
  | .error f => return (← fail requestError r f.message, st)
  | .ok target =>
    match Strict.check target with
    | .error f => return (← fail transportError r f.message, st)
    | .ok () =>
      let (outcome, st) := w.send submission.lowered st
      return (← strictResponse r outcome, st)

def respond (w : World σ) : Implementation → Request → σ → Logged (Response × σ)
  | .lenient => lenient w
  | .strict => strict w

def attempt (w : World σ) (i : Implementation) (settings : ClientSettings) (r : Request)
    (attempts : UInt32) (before : σ) : Logged (Except ExchangeFault Exchange × σ) := do
  .debug s!"Calling {r.method.name} {r.url} (attempt {attempts})"
  let (response, after) ← respond w i r before
  return (settings.exchange r response (w.elapsed before after) (w.now before) attempts, after)

def of (w : World σ) (i : Implementation) (settings : ClientSettings) : Client σ :=
  ⟨i.name, settings, attempt w i settings⟩

def checkTls (files : Files) (t : Tls) : Implementation → Setup Unit
  | .lenient => t.load files
  | .strict => t.withoutStore

def implementation (id : String) (s : Settings) : Except ConfigFault Implementation :=
  match s.get? ClientSettings.implementationKey with
  | none => .ok .lenient
  | some value =>
    match Implementation.read value with
    | .ok i => .ok i
    | .error _ => .error (.unknownClient id value)

def ofSettings (w : World σ) (files : Files) (id : String) (s : Settings) : Setup (Client σ) := do
  let i ← Setup.ofExcept (implementation id s)
  let settings ← ClientSettings.ofSettings s
  Setup.log <| .debug s!"Building {i.name} client for configuration '{id}'"
  checkTls files settings.tls i
  return of w i settings

end Client

end HttpBridge
