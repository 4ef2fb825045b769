import HttpBridge.Connect.Sink
import HttpBridge.Connect.Source
/-!
The program that tasks and connectors run in. It has as many of each kind as it likes, all of them on
the same queues and with the same counts, and calls them one at a time.
-/

namespace HttpBridge

inductive Kind
  | sinkTask
  | sourceTask
  | sinkConnector
  | sourceConnector
  deriving DecidableEq, Repr

namespace Kind

variable {σ : Type}

def State (σ : Type) : Kind → Type
  | sinkTask => SinkTask σ
  | sourceTask => SourceTask
  | sinkConnector => SinkConnector
  | sourceConnector => SourceConnector

def new : (k : Kind) → k.State σ
  | sinkTask => SinkTask.new
  | sourceTask => SourceTask.new
  | sinkConnector => SinkConnector.new
  | sourceConnector => SourceConnector.new

def restart (w : World σ) (files : Files) (s : Settings) : (k : Kind) → Start (k.State σ) Unit
  | sinkTask => SinkTask.restart w files s
  | sourceTask => SourceTask.restart s
  | sinkConnector => SinkConnector.restart w files s
  | sourceConnector => SourceConnector.restart s

def stop (queues : QueueRegistry) : (k : Kind) → k.State σ → Logged (k.State σ)
  | sinkTask, t => SinkTask.stop t
  | sourceTask, t => SourceTask.stop t queues
  | sinkConnector, c => SinkConnector.stop c
  | sourceConnector, c => SourceConnector.stop c

end Kind

structure Host (σ : Type) where
  parts : (k : Kind) → Nat → k.State σ
  fx : Sink.Effects σ

namespace Host

variable {σ : Type}

inductive Call
  | start (k : Kind) (number : Nat) (files : Files) (s : Settings)
  | stop (k : Kind) (number : Nat)
  | put (number : Nat) (records : List Record) (order : List Nat)
  | poll (number : Nat)
  | sinkConfigs (number most : Nat)
  | sourceConfigs (number most : Nat)

inductive Answer
  | started
  | refused (f : ConfigFault)
  | stopped
  | put (result : Except SinkFault (List Exchange))
  | polled (records : Option (List Record))
  | configs (settings : List Settings)

def new (fx : Sink.Effects σ) : Host σ :=
  ⟨fun k _ => k.new, fx⟩

def set (h : Host σ) (k : Kind) (number : Nat) (t : k.State σ) : Host σ :=
  { h with parts := fun k' number' =>
    if same : k' = k then if number' = number then same ▸ t else h.parts k' number'
    else h.parts k' number' }

def withQueues (h : Host σ) (queues : QueueRegistry) : Host σ :=
  { h with fx := { h.fx with queues } }

/-- Calls a task or a connector. Whatever a start did before it failed stays done. -/
def answer (w : World σ) (h : Host σ) : Call → Logged (Answer × Host σ)
  | .start k number files s => do
    let (result, t, queues) ← (k.restart w files s).run.run (h.parts k number, h.fx.queues)
    let h := (h.set k number t).withQueues queues
    match result with
    | .ok () => return (.started, h)
    | .error f => return (.refused f, h)
  | .stop k number => do
    let t ← k.stop h.fx.queues (h.parts k number)
    return (.stopped, h.set k number t)
  | .put number records order => do
    let (result, fx) ← SinkTask.put (h.parts .sinkTask number) records order h.fx
    return (.put result, { h with fx })
  | .poll number => do
    let (records, queues) ← SourceTask.poll (h.parts .sourceTask number) h.fx.queues
    return (.polled records, h.withQueues queues)
  | .sinkConfigs number most =>
    return (.configs (SinkConnector.taskConfigs (h.parts .sinkConnector number) most), h)
  | .sourceConfigs number most =>
    return (.configs (SourceConnector.taskConfigs (h.parts .sourceConnector number) most), h)

def run (w : World σ) (h : Host σ) : List Call → Logged (List (Call × Answer) × Host σ)
  | [] => return ([], h)
  | call :: calls => do
    let (answer, h) ← h.answer w call
    let (events, h) ← h.run w calls
    return ((call, answer) :: events, h)

end Host

end HttpBridge
