import HttpBridge.Client.Tls
import HttpBridge.Queue
/-!
How tasks and connectors are started: each in its place, among queues that others use as well. What
one step did there stays done even if a later step fails.
-/

namespace HttpBridge

abbrev Start (τ α : Type) := ExceptT ConfigFault (StateT (τ × QueueRegistry) Logged) α

namespace Start

variable {τ α : Type}

def check (x : Setup α) : Start τ α :=
  ExceptT.mk (StateT.lift x.run)

def log (x : Logged Unit) : Start τ Unit :=
  check (Setup.log x)

def queue (name : String) : Start τ QueueHandle :=
  ExceptT.lift fun (t, queues) => do
    let (handle, queues) ← queues.queue name
    return (handle, (t, queues))

def nameOf (handle : QueueHandle) : Start τ String :=
  ExceptT.lift fun (t, queues) => return (queues.nameOf handle, (t, queues))

def become (t : τ) : Start τ Unit :=
  ExceptT.lift fun (_, queues) => return ((), (t, queues))

def fresh (x : Start τ Unit) (new : τ) (queues : QueueRegistry) : Setup (τ × QueueRegistry) :=
  ExceptT.mk do
    let (result, place) ← x.run.run (new, queues)
    return result.map fun () => place

end Start

end HttpBridge
