import HttpBridge.Proofs.Floats.Powers
import HttpBridge.Proofs.Policies

namespace HttpBridge

open Float.Model (UnpackedFloat)
open Float.Model.UnpackedFloat
open Floats

theorem smaller_of_isNaN {a b : Float} (ha : a.isNaN = true) : smaller a b = b :=
  if_pos ha

theorem toUInt64_smaller {a b : Float} (ha : a.isNaN = false) (hb : b.isNaN = false) :
    (smaller a b).toUInt64.toNat = min a.toUInt64.toNat b.toUInt64.toNat := by
  simp only [smaller, ha, hb, Bool.false_eq_true, if_false, toNat_toUInt64]
  by_cases lower : a < b
  · have order := lt_iff.mp lower
    have kept := clamped_mono (rounded_shape a) (rounded_shape b) (ne_notANumber.mpr hb)
      (by rw [order]; decide)
    rw [if_pos lower]
    omega
  · have order := mt lt_iff.mpr lower
    have kept := clamped_mono (rounded_shape b) (rounded_shape a) (ne_notANumber.mpr ha)
      (mt compare_eq_gt_iff.mp order)
    rw [if_neg lower]
    omega

namespace RetryPolicy

variable {p : RetryPolicy} {retry : UInt32} {draw : UInt64}

def cap (p : RetryPolicy) : UInt64 :=
  p.maxDelay.toFloat.toUInt64

theorem cap_eq (h : p.maxDelay.toNat < 2 ^ 53) : p.cap = p.maxDelay :=
  toUInt64_toFloat h

theorem cappedDelay_le_cap (p : RetryPolicy) (retry : UInt32) : p.cappedDelay retry ≤ p.cap := by
  rw [cappedDelay, cap, UInt64.le_iff_toNat_le]
  cases number : (p.baseDelay.toFloat * p.growth retry).isNaN with
  | true => rw [smaller_of_isNaN number]
  | false =>
    rw [toUInt64_smaller number (toFloat_isNaN _)]
    exact Nat.min_le_right _ _

theorem toInt_exponent (counted : 0 < retry) : (exponent retry).toInt =
    if retry.toNat ≤ 2 ^ 31 then (retry.toNat : Int) - 1 else retry.toNat - 1 - 2 ^ 32 := by
  have one : 1 ≤ retry := UInt32.le_iff_toNat_le.mpr (UInt32.lt_iff_toNat_lt.mp counted)
  have before : (exponent retry).toBitVec.toNat = retry.toNat - 1 := UInt32.toNat_sub_of_le _ _ one
  have size := retry.toNat_lt
  have positive : 0 < retry.toNat := UInt32.lt_iff_toNat_lt.mp counted
  rw [← Int32.toInt_toBitVec, BitVec.toInt_eq_toNat_cond, before]
  split <;> split <;> omega

theorem delay_eq (counted : 0 < retry) : p.delay retry draw = sum? (p.cappedDelay retry) draw := by
  rw [delay, if_neg]
  rintro rfl
  exact absurd counted (by decide)

/-- Says that neither the attempts nor the waits of a policy can be too large to be counted. -/
structure Fits (p : RetryPolicy) : Prop where
  attempts : p.maxRetries.toNat + 1 < UInt32.size
  waits : p.cap.toNat + p.jitter.toNat < UInt64.size

instance (p : RetryPolicy) : Decidable p.Fits :=
  decidable_of_iff (p.maxRetries.toNat + 1 < UInt32.size ∧
    p.cap.toNat + p.jitter.toNat < UInt64.size) ⟨fun ⟨h, h'⟩ => ⟨h, h'⟩, fun h => ⟨h.1, h.2⟩⟩

theorem Fits.of_no_jitter (attempts : p.maxRetries.toNat + 1 < UInt32.size) (none : p.jitter = 0) :
    p.Fits :=
  ⟨attempts, none ▸ p.cap.toNat_lt_size⟩

theorem delay_of_fits (retry : UInt32) (waits : p.cap.toNat + p.jitter.toNat < UInt64.size)
    (drawn : draw ≤ p.jitter) : ∃ d, p.delay retry draw = some d := by
  have low := UInt64.le_iff_toNat_le.mp (cappedDelay_le_cap p retry)
  have low' := UInt64.le_iff_toNat_le.mp drawn
  by_cases none : retry = 0
  · exact ⟨0, if_pos none⟩
  · rw [delay_eq (UInt32.pos_iff_ne_zero.mpr none), ← Option.ne_none_iff_exists', Ne, sum?_eq_none]
    omega

/-- The exponent is the number of retries before, up to `2 ^ 31` of them, and negative beyond. The
delay is the sum of both parts, and there is none where 64 bits do not hold it; they do if they hold
that of the limits of both. -/
theorem delay_as_far_as_fits (p : RetryPolicy) (retry : UInt32) (draw : UInt64)
    (counted : 0 < retry) (drawn : draw ≤ p.jitter) :
    (exponent retry).toInt =
        (if retry.toNat ≤ 2 ^ 31 then (retry.toNat : Int) - 1 else retry.toNat - 1 - 2 ^ 32) ∧
      (∀ d, p.delay retry draw = some d ↔ d.toNat = (p.cappedDelay retry).toNat + draw.toNat) ∧
      (p.delay retry draw = .none ↔ 2 ^ 64 ≤ (p.cappedDelay retry).toNat + draw.toNat) ∧
      p.cappedDelay retry ≤ p.cap ∧ (p.maxDelay.toNat < 2 ^ 53 → p.cap = p.maxDelay) ∧
      (p.cap.toNat + p.jitter.toNat < 2 ^ 64 → ∃ d, p.delay retry draw = some d ∧
        d.toNat = (p.cappedDelay retry).toNat + draw.toNat ∧ p.cappedDelay retry ≤ d ∧
        d.toNat ≤ (p.cappedDelay retry).toNat + p.jitter.toNat) := by
  rw [delay_eq counted]
  refine ⟨toInt_exponent counted, fun d => sum?_eq_some, sum?_eq_none, cappedDelay_le_cap p retry,
    cap_eq, fun fits => ?_⟩
  obtain ⟨d, known⟩ := delay_of_fits retry fits drawn
  rw [delay_eq counted] at known
  have sum := sum?_eq_some.mp known
  have low := UInt64.le_iff_toNat_le.mp drawn
  exact ⟨d, known, sum, UInt64.le_iff_toNat_le.mpr (by omega), by omega⟩

theorem delay_default_fits : 0 < (3 : UInt32) ∧ 500 ≤ default.jitter ∧ ∃ d,
    default.delay 3 500 = some d ∧ d.toNat = (default.cappedDelay 3).toNat + (500 : UInt64).toNat ∧
      default.cappedDelay 3 = 4500 := by
  obtain ⟨-, -, -, -, -, sum⟩ := delay_as_far_as_fits default 3 500 (by decide) (by decide)
  obtain ⟨d, known, value, -⟩ := sum (by decide +kernel)
  exact ⟨by decide, by decide, d, known, value, by decide +kernel⟩

/-- With many retries the longest wait turns into none, and with large limits there is no wait that
could be counted. -/
theorem delay_wraps :
    let doubling := { default with factor := 2, jitter := 0 }
    let most := 18446744073709551615
    let widest := { default with baseDelay := most, maxDelay := most, jitter := most }
    (exponent 2147483649).toInt = -2147483648 ∧ doubling.delay 2147483648 0 = some 20000 ∧
      doubling.delay 2147483649 0 = some 0 ∧ widest.cappedDelay 1 = most ∧
      1 ≤ widest.jitter ∧ widest.delay 1 1 = .none := by
  decide +kernel

theorem shape_zero : shape (0 : UInt64).toFloat = .zero .positive := by
  rw [shape_toFloat]
  rfl

theorem zero_toFloat_mul (x : Float) : if x.isFinite then
    ((0 : UInt64).toFloat * x).isNaN = false ∧ ((0 : UInt64).toFloat * x).toUInt64 = 0
    else ((0 : UInt64).toFloat * x).isNaN = true := by
  rw [← UInt64.toNat_inj, toNat_toUInt64, isNaN_eq, isFinite_eq, shape_mul, shape_zero]
  cases shape x <;> simp [mul, settle, UnpackedFloat.isFinite, UnpackedFloat.isNaN, clamped]

theorem cappedDelay_of_no_base (base : p.baseDelay = 0) :
    p.cappedDelay retry = if (p.growth retry).isFinite then 0 else p.cap := by
  have product := zero_toFloat_mul (p.growth retry)
  rw [cappedDelay, base]
  split
  · rename_i finite
    rw [if_pos finite] at product
    rw [← UInt64.toNat_inj, toUInt64_smaller product.1 (toFloat_isNaN _), product.2]
    exact Nat.zero_min _
  · rename_i notFinite
    rw [if_neg notFinite] at product
    rw [smaller_of_isNaN product, cap]

theorem isFinite_growth_first (p : RetryPolicy) : (p.growth 1).isFinite = true := by
  have first : p.growth 1 = 1 := power_zero p.factor
  rw [first, isFinite_eq, shape_one]
  rfl

theorem toInt_exponent_of_nonneg (h : 0 ≤ exponent retry) :
    (exponent retry).toInt.natAbs = retry.toNat - 1 := by
  have positive := Int32.le_iff_toInt_le.mp h
  rw [Int32.toInt_zero] at positive
  by_cases none : retry = 0
  · rw [none] at positive
    exact absurd positive (by decide)
  · have counted : 0 < retry := UInt32.pos_iff_ne_zero.mpr none
    have size := retry.toNat_lt
    rw [toInt_exponent counted] at positive ⊢
    split at positive
    · rename_i low
      rw [if_pos low]
      omega
    · omega

theorem isFinite_growth_of_fits {n : UInt64} {k : Nat} (least : 1 ≤ p.factor)
    (power : n.toNat = 2 ^ k) (most : p.factor ≤ n.toFloat)
    (fits : k * (retry.toNat - 1) ≤ 1023) : (p.growth retry).isFinite = true := by
  by_cases negative : exponent retry < 0
  · exact isFinite_power_of_neg (atLeastOne_of_le least) negative
  · have positive := Int32.not_lt.mp negative
    refine isFinite_power_of_fits (upTo_of_le least power most) positive ?_
    rwa [toInt_exponent_of_nonneg positive]

theorem isFinite_growth_of_late (least : 1 ≤ p.factor) (late : 2 ^ 31 < retry.toNat) :
    (p.growth retry).isFinite = true := by
  apply isFinite_power_of_neg (atLeastOne_of_le least)
  have counted : 0 < retry := UInt32.lt_iff_toNat_lt.mpr (Nat.lt_of_le_of_lt (Nat.zero_le _) late)
  have size := retry.toNat_lt
  rw [Int32.lt_iff_toInt_lt, toInt_exponent counted, if_neg (Nat.not_le.mpr late), Int32.toInt_zero]
  omega

/-- A policy without a base waits for the random milliseconds only, as long as the power of its
factor is finite, and for its whole limit otherwise. The power is finite for the first retry, for
those beyond `2 ^ 31`, and as long as a bound of the factor by a power of two keeps it so. -/
theorem delay_of_no_base {s : Settings} (accepted : ofSettings s = .ok p)
    (base : p.baseDelay = 0) :
    (∀ retry draw, draw ≤ p.jitter → retry = 0 ∨ (p.growth retry).isFinite →
      ∃ d, p.delay retry draw = some d ∧ d ≤ p.jitter) ∧
    (∀ retry draw, 0 < retry →
      p.delay retry draw = sum? (if (p.growth retry).isFinite then 0 else p.cap) draw) ∧
    (p.growth 1).isFinite ∧
    (∀ retry, 2 ^ 31 < retry.toNat → p.factor.isNaN ∨ (p.growth retry).isFinite) ∧
    ∀ (retry : UInt32) (n : UInt64) (k : Nat), n.toNat = 2 ^ k → p.factor ≤ n.toFloat →
      k * (retry.toNat - 1) ≤ 1023 → (p.growth retry).isFinite := by
  have one : (1 : Float).isNaN = false := by decide +kernel
  have enough := (not_lt_iff one).mp (ofSettings_eq_ok.mp accepted).2
  refine ⟨fun retry draw drawn finite => ?_, fun retry draw counted => ?_,
    isFinite_growth_first p, fun retry late => ?_, fun retry n k power most fits => ?_⟩
  · by_cases none : retry = 0
    · exact ⟨0, if_pos none, UInt64.zero_le⟩
    · refine ⟨draw, ?_, drawn⟩
      rw [delay_eq (UInt32.pos_iff_ne_zero.mpr none), cappedDelay_of_no_base base,
        if_pos (finite.resolve_left none), sum?_eq_some]
      exact (Nat.zero_add _).symm
  · rw [delay_eq counted, cappedDelay_of_no_base base]
  · exact enough.symm.imp_right fun least => isFinite_growth_of_late least late
  · have least := enough.resolve_right (by rw [isNaN_of_le most]; decide)
    exact isFinite_growth_of_fits least power most fits

def steady : Settings :=
  .ofList [(delayKey, "0"), (jitterKey, "0"), (factorKey, "2")]

theorem delay_steady : ∃ p, ofSettings steady = .ok p ∧ p.baseDelay = 0 ∧
    (p.growth 1024).isFinite ∧ (∃ d, p.delay 1024 0 = some d ∧ d ≤ p.jitter) ∧
    p.delay 1025 0 = sum? p.cap 0 := by
  have read : (ofSettings steady).map (fun p => (p.baseDelay, p.factor, (p.growth 1025).isFinite)) =
      .ok (0, 2, false) := by
    decide +kernel
  obtain ⟨p, accepted, parts⟩ := map_eq_ok.mp read
  obtain ⟨base, factor, infinite⟩ := by simpa only [Prod.mk.injEq] using parts
  obtain ⟨within, value, -, -, bounded⟩ := delay_of_no_base accepted base
  have finite := bounded 1024 2 1 rfl (by rw [factor]; decide +kernel) (by decide)
  have waits := value 1025 0 (by decide)
  rw [if_neg (by rw [infinite]; decide)] at waits
  exact ⟨p, accepted, base, finite, within 1024 0 UInt64.zero_le (.inr finite), waits⟩

/-- The square of a large factor is infinite, and zero times it is no number. -/
theorem delay_of_no_base_waits :
    let settings := .ofList [(delayKey, "0"), (jitterKey, "0"), (factorKey, "1e300")]
    (ofSettings settings).map (fun p => (p.baseDelay, p.jitter, p.delay 2 0, p.delay 3 0)) =
      .ok (0, 0, some 0, some 20000) := by
  decide +kernel

end RetryPolicy

end HttpBridge
