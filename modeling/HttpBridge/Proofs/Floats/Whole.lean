import HttpBridge.Proofs.Floats.Order
import HttpBridge.Proofs.Floats.Rounding

namespace HttpBridge.Floats

open Float.Model (Format UnpackedFloat totalExponent)
open Float.Model.UnpackedFloat

def whole (m : Nat) (e : Int) : Nat :=
  m * 2 ^ e.toNat / 2 ^ (-e).toNat

theorem whole_mul_two_pow (m : Nat) (e : Int) (k : Nat) :
    whole (m * 2 ^ k) e = whole m (e + k) := by
  have places : k + e.toNat + (-(e + k)).toNat = (e + k).toNat + (-e).toNat := by omega
  calc
    m * 2 ^ k * 2 ^ e.toNat / 2 ^ (-e).toNat =
        m * 2 ^ k * 2 ^ e.toNat * 2 ^ (-(e + k)).toNat /
          (2 ^ (-e).toNat * 2 ^ (-(e + k)).toNat) :=
      (Nat.mul_div_mul_right _ _ (Nat.two_pow_pos _)).symm
    _ = m * 2 ^ (e + k).toNat * 2 ^ (-e).toNat / (2 ^ (-(e + k)).toNat * 2 ^ (-e).toNat) := by
      rw [Nat.mul_assoc m, ← Nat.pow_add, Nat.mul_assoc m, ← Nat.pow_add, places, Nat.pow_add,
        Nat.mul_assoc, Nat.mul_comm (2 ^ (-e).toNat)]
    _ = m * 2 ^ (e + k).toNat / 2 ^ (-(e + k)).toNat :=
      Nat.mul_div_mul_right _ _ (Nat.two_pow_pos _)

theorem whole_mono {m n : Nat} (h : m ≤ n) (e : Int) : whole m e ≤ whole n e :=
  Nat.div_le_div_right (Nat.mul_le_mul_right _ h)

theorem whole_le {m₁ m₂ : Nat} {e₁ e₂ : Int} (low : m₁ < 2 ^ 53)
    (long : 2 ^ 52 ≤ m₂ ∨ e₂ = -1074) (least : -1074 ≤ e₁)
    (h : e₁ < e₂ ∨ e₁ = e₂ ∧ m₁ ≤ m₂) : whole m₁ e₁ ≤ whole m₂ e₂ := by
  rcases h with lower | ⟨rfl, shorter⟩
  · obtain ⟨k, rfl⟩ : ∃ k : Nat, e₂ = e₁ + (k + 1 : Nat) := ⟨(e₂ - e₁ - 1).toNat, by omega⟩
    have long := long.resolve_right (by omega)
    rw [← whole_mul_two_pow]
    apply whole_mono
    calc
      m₁ ≤ 2 ^ 52 * 2 := Nat.le_of_lt low
      _ ≤ m₂ * 2 ^ (k + 1) := Nat.mul_le_mul long (Nat.le_self_pow (Nat.succ_ne_zero k) 2)
  · exact whole_mono shorter _

theorem roundToInt_eq (s : Sign) (m : Nat) (e : Int) : roundToInt s m e = s.apply (whole m e) := by
  have shift : (0 - (e - (e.toNat : Int))).toNat = (-e).toNat := by omega
  simp only [roundToInt, decreaseExponent, shiftToExponent, Int.sub_zero, shift,
    mantissa_shiftRight, mantissa_ofMantissaAndAccuracy, whole, Nat.shiftLeft_eq]

def clamped : UnpackedFloat → Nat
  | .infinity .positive => UInt64.size - 1
  | .finite .positive m e _ => min (whole m e) (UInt64.size - 1)
  | _ => 0

theorem toNat_ofNatClamp (n : Nat) : (UInt64.ofNatClamp n).toNat = min n (UInt64.size - 1) := by
  have : 0 < UInt64.size := by decide
  unfold UInt64.ofNatClamp
  split <;> rw [UInt64.toNat_ofNatLT] <;> omega

theorem toNat_toUInt64 (x : Float) : x.toUInt64.toNat = clamped (shape x) := by
  change (UInt64.ofNatClamp ((shape x).toInt 0 (UInt64.size - 1)).toNat).toNat = _
  rw [toNat_ofNatClamp]
  cases shape x with
  | infinity s => cases s <;> decide
  | notANumber | zero => rfl
  | finite s m e positive =>
    rw [UnpackedFloat.toInt, roundToInt_eq]
    cases s with
    | positive => rfl
    | negative =>
      have below : (Sign.apply .negative (whole m e : Int)).toNat = 0 := by
        rw [Sign.apply]
        omega
      rw [below]
      rfl

theorem clamped_mono {f g : UnpackedFloat} (hf : Rounded f) (hg : Rounded g)
    (number : g ≠ .notANumber) (h : f.compare g ≠ some .gt) : clamped f ≤ clamped g := by
  -- what is negative or no number has the whole part zero
  cases f with
  | notANumber => exact Nat.zero_le _
  | zero s => exact Nat.zero_le _
  | infinity s => cases s with
    | negative => exact Nat.zero_le _
    | positive => cases g with
      | notANumber => exact absurd rfl number
      | zero s => exact absurd rfl h
      | finite s m e positive => exact absurd rfl h
      | infinity s => cases s with
        | negative => exact absurd rfl h
        | positive => exact Nat.le_refl _
  | finite s m e positive => cases s with
    | negative => exact Nat.zero_le _
    | positive => cases g with
      | notANumber => exact absurd rfl number
      | zero s => exact absurd rfl h
      | infinity s => cases s with
        | negative => exact absurd rfl h
        | positive => exact Nat.min_le_right _ _
      | finite s m' e' positive' => cases s with
        | negative => exact absurd rfl h
        | positive =>
          have order := whole_le hf.1 hg.2.1 hf.2.2 (order_of_then h)
          simp only [clamped]
          omega

theorem round_natural {s : Sign} {n : Nat} : UnpackedFloat.round .binary64 s n 0 =
      roundWithAccuracy .binary64 s (n * 2 ^ (52 - n.log2)) (-(52 - n.log2 : Nat)) .exact := by
  have target : Format.binary64.targetExponent (totalExponent n 0) =
      max ((n.log2 : Int) + 1 + 0 - 53) (-1074) := rfl
  have places : (0 - Format.binary64.targetExponent (totalExponent n 0)).toNat = 52 - n.log2 := by
    rw [target]
    omega
  rw [UnpackedFloat.round, decreaseExponent, places, Nat.shiftLeft_eq, Int.zero_sub]

theorem ofNat_of_pos {n : Nat} (h : 0 < n) :
    UnpackedFloat.ofNat .binary64 n = UnpackedFloat.round .binary64 .positive n 0 := by
  rw [UnpackedFloat.ofNat, ofInt, UnpackedFloat.normalize, Int.compare_eq_gt.mpr (by omega)]
  rfl

theorem rounded_ofNat (n : Nat) : Rounded (UnpackedFloat.ofNat .binary64 n) := by
  rcases Nat.eq_zero_or_pos n with rfl | positive
  · trivial
  · have places := log2_shiftLeft (Nat.ne_of_gt positive) (52 - n.log2)
    rw [Nat.shiftLeft_eq] at places
    rw [ofNat_of_pos positive, round_natural]
    exact rounded_roundWithAccuracy (.inl (by omega))

theorem shape_toFloat (n : UInt64) :
    shape n.toFloat = settle (UnpackedFloat.ofNat .binary64 n.toNat) :=
  shape_ofModel_pack (rounded_ofNat n.toNat)

/-- A whole number with at most 53 places before its zeros is a float itself. -/
theorem shape_toFloat_exact {n : UInt64} {m k : Nat} (positive : 0 < m) (long : 2 ^ 52 ≤ m)
    (low : m < 2 ^ 53) (places : n.toNat * 2 ^ (52 - n.toNat.log2) = m * 2 ^ k) :
    shape n.toFloat = .finite .positive m (n.toNat.log2 - 52) positive := by
  have product : 0 < n.toNat * 2 ^ (52 - n.toNat.log2) :=
    places ▸ Nat.mul_pos positive (Nat.two_pow_pos k)
  have nonzero := Nat.pos_of_mul_pos_right product
  have short : n.toNat.log2 < 64 := (Nat.log2_lt (Nat.ne_of_gt nonzero)).mpr n.toNat_lt
  have total := log2_shiftLeft (Nat.ne_of_gt positive) k
  have total' := log2_shiftLeft (Nat.ne_of_gt nonzero) (52 - n.toNat.log2)
  rw [Nat.shiftLeft_eq] at total total'
  rw [places, total, (Nat.log2_eq_iff (Nat.ne_of_gt positive)).mpr ⟨long, low⟩] at total'
  rw [shape_toFloat, ofNat_of_pos nonzero, round_natural, places,
    roundWithAccuracy_exact positive long low (by omega), settle, if_pos (by omega),
    UnpackedFloat.finite.injEq]
  exact ⟨rfl, rfl, by omega⟩

theorem toFloat_isNaN (n : UInt64) : n.toFloat.isNaN = false := by
  rw [isNaN_eq, shape_toFloat, settle_isNaN]
  rcases Nat.eq_zero_or_pos n.toNat with zero | positive
  · rw [zero]
    rfl
  · rw [ofNat_of_pos positive, round_natural]
    exact roundWithAccuracy_isNaN _ _ _ _

theorem shape_two_pow {n : UInt64} {k : Nat} (h : n.toNat = 2 ^ k) :
    shape n.toFloat = .finite .positive (2 ^ 52) (k - 52) (by decide) := by
  have places : n.toNat.log2 = k := by rw [h, Nat.log2_two_pow]
  have digits : n.toNat * 2 ^ (52 - n.toNat.log2) = 2 ^ 52 * 2 ^ (k - 52) := by
    rw [places, h, ← Nat.pow_add, ← Nat.pow_add, show k + (52 - k) = 52 + (k - 52) by omega]
  rw [shape_toFloat_exact (by decide) (Nat.le_refl _) (by decide) digits, places]

theorem toUInt64_toFloat {n : UInt64} (h : n.toNat < 2 ^ 53) : n.toFloat.toUInt64 = n := by
  rw [← UInt64.toNat_inj, toNat_toUInt64]
  rcases Nat.eq_zero_or_pos n.toNat with zero | positive
  · rw [shape_toFloat, zero]
    rfl
  · have nonzero := Nat.ne_of_gt positive
    have short : n.toNat.log2 < 53 := (Nat.log2_lt nonzero).mpr h
    have shifted := Nat.mul_pos positive (Nat.two_pow_pos (52 - n.toNat.log2))
    have bounds : 2 ^ 52 ≤ n.toNat * 2 ^ (52 - n.toNat.log2) ∧
        n.toNat * 2 ^ (52 - n.toNat.log2) < 2 ^ 53 := by
      rw [← Nat.log2_eq_iff (Nat.ne_of_gt shifted), ← Nat.shiftLeft_eq, log2_shiftLeft nonzero]
      omega
    have exponent : (n.toNat.log2 : Int) - 52 + (52 - n.toNat.log2 : Nat) = 0 := by omega
    have value : whole n.toNat 0 = n.toNat := by simp [whole]
    have fits := n.toNat_lt
    rw [shape_toFloat_exact (k := 0) shifted bounds.1 bounds.2 (Nat.mul_one _).symm, clamped,
      whole_mul_two_pow, exponent, value]
    exact Nat.min_eq_left (Nat.le_sub_one_of_lt fits)

end HttpBridge.Floats
