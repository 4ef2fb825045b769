import HttpBridge.Message.Request

namespace HttpBridge

def transportFailureStatus : Int32 := 0

structure Response where
  status : Int32
  message : String
  headers : Headers
  body : String
  deriving DecidableEq, Inhabited

/-- Keeps the first characters of a text, if there is a limit: the text is cut where the next
character begins. -/
def truncate (limit : Option UInt64) (s : String) : String :=
  match limit with
  | none => s
  | some n => (s.sliceTo (s.startPos.nextn n.toNat)).copy

theorem toList_truncate (n : UInt64) (s : String) :
    (truncate (some n) s).toList = s.toList.take n.toNat := by
  rw [truncate, (s.splits_nextn_startPos n.toNat).copy_sliceTo_eq, String.toList_ofList]

namespace Response

def new (status : Int32) (message : String) : Response :=
  ⟨status, message, ∅, ""⟩

def transportFailure (message : String) : Response :=
  new transportFailureStatus message

def withHeaders (r : Response) (headers : Headers) : Response :=
  { r with headers }

def withBody (r : Response) (body : String) : Response :=
  { r with body }

def isTransportFailure (r : Response) : Bool :=
  r.status == transportFailureStatus

def statusText (r : Response) : String :=
  toString r.status

end Response

structure Truncation where
  message : Option UInt64
  body : Option UInt64
  deriving DecidableEq, Inhabited

def Truncation.apply (t : Truncation) (r : Response) : Response :=
  { r with message := truncate t.message r.message, body := truncate t.body r.body }

end HttpBridge
