import HttpBridge.Message.Response
import HttpBridge.Time.Duration
import HttpBridge.Time.Moment

namespace HttpBridge

inductive ExchangeFault
  | missingRequest
  | missingResponse
  | negativeStatus (status : Int32)
  deriving DecidableEq

def ExchangeFault.message : ExchangeFault → String
  | missingRequest => "an exchange requires a request"
  | missingResponse => "an exchange requires a response"
  | negativeStatus status => "response status code must be >= 0, got " ++ toString status

structure Exchange where
  request : Request
  response : Response
  millis : UInt64
  moment : Time.Moment
  attempts : UInt32
  success : Bool
  accepted : 0 ≤ response.status
  deriving DecidableEq

structure ExchangeDraft where
  request : Option Request
  response : Option Response
  duration : Time.Duration
  moment : Option Time.Moment
  attempts : UInt32
  success : Bool

namespace ExchangeDraft

def new : ExchangeDraft :=
  ⟨none, none, .zero, none, 1, false⟩

/-- Makes an exchange, at the moment `now` if no other is given. A duration too long to count in
milliseconds becomes the longest that is not. -/
def build (d : ExchangeDraft) (now : Time.Moment) : Except ExchangeFault Exchange :=
  match d.request, d.response with
  | none, _ => .error .missingRequest
  | _, none => .error .missingResponse
  | some request, some response =>
    if accepted : 0 ≤ response.status then
      .ok {
        request, response, accepted
        millis := .ofNat (min d.duration.millis (UInt64.size - 1))
        moment := d.moment.getD now
        attempts := d.attempts
        success := d.success }
    else .error (.negativeStatus response.status)

theorem build_eq_ok {d : ExchangeDraft} {now : Time.Moment} {e : Exchange} :
    d.build now = .ok e ↔ d.request = some e.request ∧ d.response = some e.response ∧
      e.millis = .ofNat (min d.duration.millis (UInt64.size - 1)) ∧ e.moment = d.moment.getD now ∧
      e.attempts = d.attempts ∧ e.success = d.success := by
  obtain ⟨request, response, duration, moment, attempts, success⟩ := d
  cases request with
  | none => simp [build]
  | some request =>
    cases response with
    | none => simp [build]
    | some response =>
      simp only [build]
      split
      · constructor
        · intro h
          cases h
          simp
        · rintro ⟨h₁, h₂, h₃, h₄, h₅, h₆⟩
          obtain ⟨_, _, _, _, _, _, _⟩ := e
          simp_all
      · rename_i negative
        constructor
        · intro h
          cases h
        · rintro ⟨-, h, -⟩
          cases h
          exact absurd e.accepted negative

end ExchangeDraft

end HttpBridge
