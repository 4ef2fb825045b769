import HttpBridge.Connect.Sink
import HttpBridge.Connect.Source
import HttpBridge.Proofs.Assembly
import HttpBridge.Proofs.Retry
import HttpBridge.Proofs.Json.Scan
import HttpBridge.Proofs.Json.Tree
import HttpBridge.Proofs.Json.Reading
import HttpBridge.Proofs.Time
import HttpBridge.Proofs.Wire
import HttpBridge.Proofs.Edits
import HttpBridge.Proofs.Queue
import HttpBridge.Proofs.Bridge.Conservation
import HttpBridge.Proofs.Fifo
import HttpBridge.Proofs.Slices
import HttpBridge.Proofs.Isolation
import HttpBridge.Proofs.Backends
import HttpBridge.Proofs.Metrics
import HttpBridge.Proofs.Averages
import HttpBridge.Proofs.Batch
import HttpBridge.Proofs.Faults
import HttpBridge.Proofs.Items
import HttpBridge.Proofs.Names
import HttpBridge.Proofs.Registry
import HttpBridge.Proofs.Registration
import HttpBridge.Proofs.Routing
import HttpBridge.Proofs.Configured
import HttpBridge.Proofs.Accounting
import HttpBridge.Proofs.Truncation
import HttpBridge.Proofs.Refusal
import HttpBridge.Connect.Host
import HttpBridge.Proofs.Lifecycle
import HttpBridge.Proofs.Identity
import HttpBridge.Proofs.Base64
import HttpBridge.Proofs.Blocks
import HttpBridge.Proofs.Forms
import HttpBridge.Proofs.Multipart
import HttpBridge.Proofs.Attempts
import HttpBridge.Proofs.Floats.Shape
import HttpBridge.Proofs.Delay
import HttpBridge.Proofs.Enrichment
import HttpBridge.Proofs.Sending
import HttpBridge.Proofs.Spellings
import HttpBridge.Proofs.Calls
import HttpBridge.Proofs.Idempotence
import HttpBridge.Proofs.Identifiers
