import HttpBridge.Client.Outgoing
import HttpBridge.Client.Reply
import HttpBridge.Time.Duration
import HttpBridge.Time.Moment

namespace HttpBridge

structure World (σ : Type) where
  send : Submission → σ → Outcome × σ
  sleep : UInt64 → σ → σ
  now : σ → Time.Moment
  now_regular : ∀ st, (now st).Regular
  elapsed : σ → σ → Time.Duration
  /-- a random number up to a limit -/
  draw : UInt64 → σ → UInt64 × σ
  draw_le : ∀ most st, (draw most st).1 ≤ most
  /-- random letters and digits, 24 of them -/
  boundary : σ → String × σ
  identifier : σ → String × σ

end HttpBridge
