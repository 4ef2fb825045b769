import HttpBridge.Connect.Record
import HttpBridge.Connect.Settings
import HttpBridge.Connect.Start
import HttpBridge.Task

namespace HttpBridge

inductive SinkFault
  | notStarted
  | invalidRequest (topic : String) (index : Nat) (cause : Json.Fault)
  | exchange (f : ExchangeFault)
  /-- a sum of durations that is too long to be counted -/
  | tooLong
  /-- a number of attempts or a wait that is too large to be counted -/
  | uncounted
  deriving DecidableEq

structure SinkState (σ : Type) where
  settings : SinkSettings
  task : HttpTask σ
  queue : Option QueueHandle

structure SinkTask (σ : Type) where
  state : Option (SinkState σ)

namespace Sink

variable {σ : Type}

def readRequest (index : Nat) (r : Record) : Logged (Except SinkFault Request) := do
  match Request.decode r.value with
  | .ok request => return .ok request
  | .error f =>
    .error s!"Record {index} from topic '{r.topic}' is not a valid http request: {f.message}"
    return .error (.invalidRequest r.topic index f)

def setHeader (r : Request) (h : String × String) : Request :=
  { r with headers := r.headers.insert h.1 [h.2] }

def addIdentifier (w : World σ) (wanted : Bool) (name : String) (r : Request) (st : σ) :
    Request × σ :=
  if wanted && !r.hasHeader name then
    let (id, st) := w.identifier st
    (r.withHeader name id, st)
  else (r, st)

def enrich (w : World σ) (s : SinkSettings) (r : Request) (st : σ) : Request × σ :=
  let r := s.staticHeaders.foldl setHeader r
  let (r, st) := addIdentifier w s.generatesRequestId requestIdHeader r st
  addIdentifier w s.generatesCorrelationId correlationIdHeader r st

abbrev Job := Record × Request

def readBatch (w : World σ) (s : SinkSettings) :
    Nat → List Record → σ → Logged (Except SinkFault (List Job) × σ)
  | _, [], st => return (.ok [], st)
  | index, r :: rs, st => do
    match ← readRequest index r with
    | .error f => return (.error f, st)
    | .ok request =>
      let (request, st) := enrich w s request st
      let (rest, st) ← readBatch w s (index + 1) rs st
      return (rest.map ((r, request) :: ·), st)

structure Effects (σ : Type) where
  queues : QueueRegistry
  metrics : Metrics
  state : σ

/-- Queues an exchange with key and headers of its record. A queue that is full drops it. -/
def publish (queue : Option QueueHandle) (r : Record) (e : Exchange) (queues : QueueRegistry) :
    Logged QueueRegistry := do
  match queue with
  | none => return queues
  | some handle =>
    match ← queues.enqueue handle ⟨r.headers, r.key, none, e⟩ with
    | .ok queues => return queues
    | .error _ => return queues

def complete (s : SinkState σ) (job : Job) (fx : Effects σ) :
    Logged (Except SinkFault Exchange × Effects σ) := do
  let run ← s.task.call job.2 fx.state
  let duration := s.task.world.elapsed fx.state run.state
  match run.result with
  | none => return (.error .uncounted, { fx with state := run.state })
  | some result =>
    match s.task.finish fx.metrics job.2 result duration, result with
    | none, _ => return (.error .tooLong, { fx with state := run.state })
    | some metrics, .error f => return (.error (.exchange f), ⟨fx.queues, metrics, run.state⟩)
    | some metrics, .ok e =>
      let queues ← publish s.queue job.1 e fx.queues
      return (.ok e, ⟨queues, metrics, run.state⟩)

/-- Completes the calls of a batch in the given order of their places, up to the first fault. The
exchanges come with their places. -/
def completeAll (s : SinkState σ) (jobs : List Job) :
    List Nat → Effects σ → Logged (Except SinkFault (List (Nat × Exchange)) × Effects σ)
  | [], fx => return (.ok [], fx)
  | place :: places, fx => do
    match jobs[place]? with
    | none => completeAll s jobs places fx
    | some job =>
      match ← complete s job fx with
      | (.error f, fx) => return (.error f, fx)
      | (.ok e, fx) =>
        let (rest, fx) ← completeAll s jobs places fx
        return (rest.map ((place, e) :: ·), fx)

def inOrder (count : Nat) (done : List (Nat × Exchange)) : List Exchange :=
  (List.range count).filterMap fun place => done.lookup place

end Sink

namespace SinkTask

variable {σ : Type}

def new : SinkTask σ := ⟨none⟩

def restart (w : World σ) (files : Files) (s : Settings) : Start (SinkTask σ) Unit := do
  let settings ← Start.check (Setup.ofExcept (SinkSettings.ofSettings s))
  let registry ← Start.check (Registry.ofSettings w files s)
  let task : HttpTask σ := ⟨w, registry⟩
  if settings.publishes then
    let handle ← Start.queue settings.queueName
    let name ← Start.nameOf handle
    Start.log <| .info s!"Http sink task started, publishing exchanges to queue '{name}'"
    Start.become ⟨some ⟨settings, task, some handle⟩⟩
  else
    Start.log <| .info "Http sink task started"
    Start.become ⟨some ⟨settings, task, none⟩⟩

def start (w : World σ) (files : Files) (queues : QueueRegistry) (s : Settings) :
    Setup (SinkTask σ × QueueRegistry) :=
  (restart w files s).fresh new queues

/-- Sends the requests of a batch at the same time. All requests are read before any is sent, the
calls begin in the order of the batch and end in the given one, and the exchanges are given back in
the order of the batch. -/
def put (t : SinkTask σ) (records : List Record) (order : List Nat) (fx : Sink.Effects σ) :
    Logged (Except SinkFault (List Exchange) × Sink.Effects σ) := do
  match t.state with
  | none => return (.error .notStarted, fx)
  | some s =>
    match ← Sink.readBatch s.task.world s.settings 0 records fx.state with
    | (.error f, st) => return (.error f, { fx with state := st })
    | (.ok jobs, st) =>
      let metrics := jobs.foldl (fun m job => s.task.begin m job.2) fx.metrics
      let (done, fx) ← Sink.completeAll s jobs order ⟨fx.queues, metrics, st⟩
      return (done.map (Sink.inOrder jobs.length), fx)

def stop (t : SinkTask σ) : Logged (SinkTask σ) := do
  if t.state.isSome then
    .info "Http sink task stopped"
  return new

end SinkTask

structure SinkConnector where
  settings : Option Settings
  deriving DecidableEq, Inhabited

namespace SinkConnector

variable {σ : Type}

def new : SinkConnector := ⟨none⟩

def restart (w : World σ) (files : Files) (s : Settings) : Start SinkConnector Unit := do
  let sink ← Start.check (Setup.ofExcept (SinkSettings.ofSettings s))
  let registry ← Start.check (Registry.ofSettings w files s)
  Start.log <|
    .info s!"Starting http sink connector with {registry.size} configuration(s), publishing to queue: {sink.publishes}"
  Start.become ⟨some s⟩

def taskConfigs (c : SinkConnector) (most : Nat) : List Settings :=
  match c.settings with
  | some s => List.replicate most s
  | none => []

def stop (c : SinkConnector) : Logged SinkConnector := do
  if c.settings.isSome then
    .info "Http sink connector stopped"
  return new

end SinkConnector

end HttpBridge
