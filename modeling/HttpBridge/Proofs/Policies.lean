import HttpBridge.Proofs.Floats.Texts
import HttpBridge.Proofs.Floats.Order
import HttpBridge.Proofs.Results
import HttpBridge.Retry.Policy

namespace HttpBridge

namespace Settings

variable {α : Type} {s : Settings} {key : String} {parse : Parser α} {default a : α}

def Yields (s : Settings) (key : String) (parse : Parser α) (default a : α) : Prop :=
  match s.get? key with
  | some raw => parse (Text.trim raw) = .ok a
  | none => a = default

theorem parsedOr_eq_ok : s.parsedOr key parse default = .ok a ↔ s.Yields key parse default a := by
  rw [parsedOr, map_eq_ok, parsed, Yields]
  cases s.get? key with
  | none => simp [eq_comm]
  | some raw =>
    dsimp only
    cases parse (Text.trim raw) <;> simp

end Settings

namespace RetryPolicy

variable {s : Settings} {p : RetryPolicy}

structure ReadFrom (s : Settings) (p : RetryPolicy) : Prop where
  retries : s.Yields retriesKey .uint32 default.maxRetries p.maxRetries
  base : s.Yields delayKey .uint64 default.baseDelay p.baseDelay
  limit : s.Yields maxDelayKey .uint64 default.maxDelay p.maxDelay
  factor : s.Yields factorKey .float default.factor p.factor
  jitter : s.Yields jitterKey .uint64 default.jitter p.jitter
  retried : match s.get? patternKey with
    | some text => Pattern.of? text = some p.retried
    | .none => p.retried = defaultRetried

theorem pattern_eq_ok {retried : Pattern} :
    (∃ o, s.pattern patternKey = .ok o ∧ o.getD defaultRetried = retried) ↔
      match s.get? patternKey with
      | some text => Pattern.of? text = some retried
      | .none => retried = defaultRetried := by
  rw [Settings.pattern]
  cases s.get? patternKey with
  | none => simp [eq_comm]
  | some text =>
    dsimp only
    cases Pattern.of? text <;> simp

theorem ofSettings_eq_ok : ofSettings s = .ok p ↔ ReadFrom s p ∧ ¬p.factor < 1 := by
  unfold ofSettings
  simp only [bind_eq_ok, Settings.parsedOr_eq_ok]
  constructor
  · rintro ⟨retries, h₁, base, h₂, limit, h₃, factor, h₄, jitter, h₅, h⟩
    split at h
    · cases h
    · rename_i enough
      obtain ⟨o, found, made⟩ := bind_eq_ok.mp h
      obtain rfl := Except.ok.inj made
      exact ⟨⟨h₁, h₂, h₃, h₄, h₅, pattern_eq_ok.mp ⟨o, found, rfl⟩⟩, enough⟩
  · rintro ⟨⟨h₁, h₂, h₃, h₄, h₅, h₆⟩, enough⟩
    obtain ⟨o, found, retried⟩ := pattern_eq_ok.mpr h₆
    refine ⟨_, h₁, _, h₂, _, h₃, _, h₄, _, h₅, ?_⟩
    rw [if_neg enough]
    exact bind_eq_ok.mpr ⟨o, found, by rw [retried]; rfl⟩

theorem ReadFrom.factor_isNaN (h : ReadFrom s p) : p.factor.isNaN = true ↔
    ∃ raw, s.get? factorKey = some raw ∧ Decimal.SpellsNaN (Text.trim raw).toList := by
  have read := h.factor
  rw [Settings.Yields] at read
  cases found : s.get? factorKey with
  | none =>
    have number : default.factor.isNaN = false := rfl
    rw [found] at read
    rw [read, number]
    simp
  | some raw =>
    rw [found] at read
    rw [Decimal.readFloat_isNaN (mapError_eq_ok.mp read)]
    simp

/-- Settings make a policy just if each part can be read from them and the factor is at least one or
spelled out as no number. -/
theorem ofSettings_yields : ofSettings s = .ok p ↔ ReadFrom s p ∧
    (1 ≤ p.factor ∨
      ∃ raw, s.get? factorKey = some raw ∧ Decimal.SpellsNaN (Text.trim raw).toList) := by
  have one : (1 : Float).isNaN = false := by decide +kernel
  rw [ofSettings_eq_ok, Floats.not_lt_iff one]
  constructor
  · rintro ⟨read, enough⟩
    exact ⟨read, enough.imp_right read.factor_isNaN.mp⟩
  · rintro ⟨read, enough⟩
    exact ⟨read, enough.imp_right read.factor_isNaN.mpr⟩

/-- No number is not below one. -/
theorem ofSettings_nan : ∃ p, ofSettings (.ofList [(factorKey, "nan")]) = .ok p ∧
    p.factor.isNaN = true ∧ ¬1 ≤ p.factor :=
  ⟨{ default with factor := Decimal.notANumber }, rfl, by decide +kernel, by decide +kernel⟩

end RetryPolicy

end HttpBridge
