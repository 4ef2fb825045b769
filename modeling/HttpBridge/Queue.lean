import HttpBridge.Log
import HttpBridge.Message.Exchange
import HttpBridge.Text.Quoted
/-!
Queues of finished exchanges. A queue keeps what it has: when it is full, it refuses the newest
record and gives it back.
-/

namespace HttpBridge

def defaultQueueName := "default"

def defaultQueueCapacity : UInt64 := 10000

structure QueueRecord where
  headers : List (String × String)
  key : Option String
  value : Option String
  exchange : Exchange
  deriving DecidableEq

structure QueueFull where
  queue : String
  capacity : UInt64
  record : QueueRecord
  deriving DecidableEq

def QueueFull.message (f : QueueFull) : String :=
  "queue '" ++ f.queue ++ "' is full (capacity " ++ toString f.capacity ++ ")"

structure ExchangeQueue where
  name : String
  capacity : UInt64
  records : List QueueRecord
  deriving DecidableEq

namespace ExchangeQueue

def new (name : String) (capacity : UInt64) : ExchangeQueue :=
  ⟨name, capacity, []⟩

def size (q : ExchangeQueue) : Nat :=
  q.records.length

def isEmpty (q : ExchangeQueue) : Bool :=
  q.records.isEmpty

def enqueue (q : ExchangeQueue) (r : QueueRecord) : Except QueueFull ExchangeQueue :=
  if q.size < q.capacity.toNat then .ok { q with records := q.records ++ [r] }
  else .error ⟨q.name, q.capacity, r⟩

def poll (q : ExchangeQueue) (most : Nat) : List QueueRecord × ExchangeQueue :=
  (q.records.take most, { q with records := q.records.drop most })

def describe (q : ExchangeQueue) : String :=
  "ExchangeQueue \x7b name: " ++ Text.quote q.name ++ ", capacity: " ++ toString q.capacity
    ++ ", len: " ++ toString q.size ++ " \x7d"

end ExchangeQueue

/-- Names a queue for as long as someone holds it, whatever becomes of its name. -/
abbrev QueueHandle := Nat

structure QueueRegistry where
  capacity : UInt64
  queues : List ExchangeQueue
  names : Dict QueueHandle
  deriving DecidableEq

namespace QueueRegistry

def new (capacity : UInt64) : QueueRegistry :=
  ⟨capacity, [], ∅⟩

def add (r : QueueRegistry) (q : ExchangeQueue) : QueueHandle × QueueRegistry :=
  (r.queues.length, { r with queues := r.queues ++ [q] })

def queue (r : QueueRegistry) (name : String) : Logged (QueueHandle × QueueRegistry) := do
  match r.names.find? name with
  | some handle => return (handle, r)
  | none =>
    .debug s!"Creating queue '{name}' with capacity {r.capacity}"
    let (handle, r) := r.add (.new name r.capacity)
    return (handle, { r with names := r.names.insert name handle })

def defaultQueue (r : QueueRegistry) : Logged (QueueHandle × QueueRegistry) :=
  r.queue defaultQueueName

def get? (r : QueueRegistry) (handle : QueueHandle) : Option ExchangeQueue :=
  r.queues[handle]?

def set (r : QueueRegistry) (handle : QueueHandle) (q : ExchangeQueue) : QueueRegistry :=
  { r with queues := r.queues.set handle q }

def size (r : QueueRegistry) (handle : QueueHandle) : Nat :=
  ((r.get? handle).map (·.size)).getD 0

def nameOf (r : QueueRegistry) (handle : QueueHandle) : String :=
  ((r.get? handle).map (·.name)).getD ""

def enqueue (r : QueueRegistry) (handle : QueueHandle) (record : QueueRecord) :
    Logged (Except QueueFull QueueRegistry) := do
  match r.get? handle with
  | none => return .ok r
  | some q =>
    match q.enqueue record with
    | .ok q => return .ok (r.set handle q)
    | .error f =>
      .warn s!"Queue '{q.name}' is full ({q.capacity} records), rejecting exchange for {record.exchange.request.url}"
      return .error f

def poll (r : QueueRegistry) (handle : QueueHandle) (most : Nat) :
    List QueueRecord × QueueRegistry :=
  match r.get? handle with
  | none => ([], r)
  | some q =>
    let (records, q) := q.poll most
    (records, r.set handle q)

def contains (r : QueueRegistry) (name : String) : Bool :=
  r.names.contains name

def listNames (r : QueueRegistry) : List String :=
  r.names.keys

def pending (r : QueueRegistry) : Nat :=
  r.names.values.foldl (fun n handle => n + r.size handle) 0

/-- Forgets all names. Who holds a queue keeps it. -/
def shutdown (r : QueueRegistry) : Logged QueueRegistry := do
  if 0 < r.pending then
    .warn s!"Shutting down queues with {r.pending} unpolled record(s)"
  return { r with names := ∅ }

end QueueRegistry

end HttpBridge
