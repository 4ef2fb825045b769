import HttpBridge.Queue
import HttpBridge.Settings
/-!
Settings of the two ends of the bridge: the sink, which takes requests and sends them, and the
source, which gives the exchanges out.
-/

namespace HttpBridge

def successTopicKey := "success.topic"
def errorTopicKey := "error.topic"
def queueNameKey := "queue.name"
def pollBatchSizeKey := "poll.batch.size"
def publishKey := "publish.to.in.memory.queue"
def requestIdKey := "generate.missing.request.id"
def correlationIdKey := "generate.missing.correlation.id"

/-- Lists the static headers. Each name is also the key of its value. -/
def staticHeaderNamesKey := "static.request.header.names"

def defaultPollBatchSize : UInt64 := 100

def requestIdHeader := "X-Request-ID"
def correlationIdHeader := "X-Correlation-ID"

def Settings.queueName (s : Settings) : String :=
  match s.get? queueNameKey with
  | some name => if Text.allBlank name then defaultQueueName else Text.trim name
  | none => defaultQueueName

structure SourceSettings where
  successTopic : String
  errorTopic : String
  queueName : String
  pollBatchSize : UInt64
  deriving DecidableEq, Inhabited

def SourceSettings.ofSettings (s : Settings) : Except ConfigFault SourceSettings := do
  let pollBatchSize ← s.parsedOr pollBatchSizeKey .uint64 defaultPollBatchSize
  if pollBatchSize = 0 then
    throw (.invalidValue pollBatchSizeKey "0" "must be at least 1")
  let successTopic ← s.require successTopicKey
  let errorTopic ← s.require errorTopicKey
  return ⟨successTopic, errorTopic, s.queueName, pollBatchSize⟩

structure SinkSettings where
  queueName : String
  publishes : Bool
  generatesRequestId : Bool
  generatesCorrelationId : Bool
  staticHeaders : List (String × String)
  deriving DecidableEq, Inhabited

namespace SinkSettings

def staticHeader (s : Settings) (name : String) : Except ConfigFault (String × String) :=
  (s.require name).map fun value => (name, value)

def ofSettings (s : Settings) : Except ConfigFault SinkSettings := do
  let staticHeaders ← (s.list staticHeaderNamesKey).mapM (staticHeader s)
  let publishes ← s.boolean publishKey false
  let generatesRequestId ← s.boolean requestIdKey false
  let generatesCorrelationId ← s.boolean correlationIdKey false
  return ⟨s.queueName, publishes, generatesRequestId, generatesCorrelationId, staticHeaders⟩

end SinkSettings

end HttpBridge
