import HttpBridge.Connect.Record
import HttpBridge.Connect.Settings
import HttpBridge.Connect.Start

namespace HttpBridge

structure SourceState where
  settings : SourceSettings
  queue : QueueHandle
  deriving DecidableEq

structure SourceTask where
  state : Option SourceState
  deriving DecidableEq, Inhabited

namespace Source

def topic (s : SourceSettings) (e : Exchange) : String :=
  if e.success then s.successTopic else s.errorTopic

/-- Makes the record of an exchange; one that cannot be written is dropped. -/
def record? (s : SourceSettings) (r : QueueRecord) : Logged (Option Record) := do
  match r.exchange.serialize with
  | .ok value => return some ⟨topic s r.exchange, r.key, value, r.headers⟩
  | .error f =>
    .error s!"Cannot serialize exchange for {r.exchange.request.url}: {f.message}"
    return none

def records (s : SourceSettings) : List QueueRecord → Logged (List Record)
  | [] => return []
  | r :: rs => do
    let first ← record? s r
    let rest ← records s rs
    return first.toList ++ rest

end Source

namespace SourceTask

def new : SourceTask := ⟨none⟩

def restart (s : Settings) : Start SourceTask Unit := do
  let settings ← Start.check (Setup.ofExcept (SourceSettings.ofSettings s))
  let handle ← Start.queue settings.queueName
  let name ← Start.nameOf handle
  Start.log <| .info s!"Http source task polling queue '{name}'"
  Start.become ⟨some ⟨settings, handle⟩⟩

def start (queues : QueueRegistry) (s : Settings) : Setup (SourceTask × QueueRegistry) :=
  (restart s).fresh new queues

def poll (t : SourceTask) (queues : QueueRegistry) :
    Logged (Option (List Record) × QueueRegistry) := do
  match t.state with
  | none => return (none, queues)
  | some s =>
    let (polled, queues) := queues.poll s.queue s.settings.pollBatchSize.toNat
    let records ← Source.records s.settings polled
    if !records.isEmpty then
      .debug s!"Polled {records.length} record(s) from queue '{queues.nameOf s.queue}'"
    return (some records, queues)

def stop (t : SourceTask) (queues : QueueRegistry) : Logged SourceTask := do
  match t.state with
  | none => return new
  | some s =>
    .info s!"Http source task stopped, {queues.size s.queue} record(s) left in queue '{queues.nameOf s.queue}'"
    return new

end SourceTask

structure SourceConnector where
  settings : Option Settings
  deriving DecidableEq, Inhabited

namespace SourceConnector

def new : SourceConnector := ⟨none⟩

def restart (s : Settings) : Start SourceConnector Unit := do
  let source ← Start.check (Setup.ofExcept (SourceSettings.ofSettings s))
  Start.log <|
    .info s!"Starting http source connector on queue '{source.queueName}' (success: '{source.successTopic}', error: '{source.errorTopic}')"
  Start.become ⟨some s⟩

def taskConfigs (c : SourceConnector) (most : Nat) : List Settings :=
  match c.settings with
  | some s => List.replicate most s
  | none => []

def stop (c : SourceConnector) : Logged SourceConnector := do
  if c.settings.isSome then
    .info "Http source connector stopped"
  return new

end SourceConnector

end HttpBridge
