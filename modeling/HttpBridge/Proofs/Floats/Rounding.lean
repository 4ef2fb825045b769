import HttpBridge.Proofs.Floats.Shape

namespace HttpBridge.Floats

open Float.Model (Format UnpackedFloat totalExponent)
open Float.Model.UnpackedFloat

/-- Counts the places that a mantissa has more than can be stored. -/
def surplus (m : Nat) (e : Int) : Nat :=
  (max (m.log2 + e - 52) (-1074) - e).toNat

def shortened (m : Nat) (e : Int) (a : Accuracy) : Nat :=
  (ExtendedMantissa.ofMantissaAndAccuracy m a >>> surplus m e).roundedMantissa

def carry (s : Sign) (m : Nat) (e : Int) : UnpackedFloat :=
  if h : m = 0 then .zero s
  else if m < 2 ^ 53 then .finite s m e (Nat.pos_of_ne_zero h)
  else .finite s (2 ^ 52) (e + 1) (by decide)

theorem mantissa_shiftRight (x : ExtendedMantissa) (k : Nat) :
    (x >>> k).mantissa = x.mantissa / 2 ^ k := by
  change (k.repeat ExtendedMantissa.shiftRightOne x).mantissa = _
  induction k with
  | zero => simp [Nat.repeat]
  | succ k ih =>
    rw [Nat.repeat, ExtendedMantissa.shiftRightOne, ih, Nat.div_div_eq_div_mul, Nat.pow_succ]

theorem mantissa_ofMantissaAndAccuracy (m : Nat) (a : Accuracy) :
    (ExtendedMantissa.ofMantissaAndAccuracy m a).mantissa = m := by
  cases a with
  | exact => rfl
  | inexact o => cases o <;> rfl

theorem roundedMantissa_bounds (x : ExtendedMantissa) :
    x.mantissa ≤ x.roundedMantissa ∧ x.roundedMantissa ≤ x.mantissa + 1 := by
  obtain ⟨m, round, sticky⟩ := x
  cases round <;> cases sticky <;>
    simp [ExtendedMantissa.roundedMantissa, ExtendedMantissa.accuracy,
      Accuracy.roundToNearestEven]
  omega

theorem shortened_bounds (m : Nat) (e : Int) (a : Accuracy) :
    m / 2 ^ surplus m e ≤ shortened m e a ∧ shortened m e a ≤ m / 2 ^ surplus m e + 1 := by
  have bounds :=
    roundedMantissa_bounds (ExtendedMantissa.ofMantissaAndAccuracy m a >>> surplus m e)
  rwa [mantissa_shiftRight, mantissa_ofMantissaAndAccuracy] at bounds

theorem shortened_le (m : Nat) (e : Int) (a : Accuracy) : shortened m e a ≤ 2 ^ 53 := by
  have places : m.log2 ≤ 52 + surplus m e := by
    rw [surplus]
    omega
  have high : m / 2 ^ surplus m e < 2 ^ 53 := by
    rw [Nat.div_lt_iff_lt_mul (Nat.two_pow_pos _), ← Nat.pow_add]
    exact Nat.lt_of_lt_of_le Nat.lt_log2_self (Nat.pow_le_pow_right (by decide) (by omega))
  exact Nat.le_trans (shortened_bounds m e a).2 high

theorem shortened_of_long {m : Nat} {e : Int} (a : Accuracy) (long : 52 ≤ m.log2)
    (least : -1074 ≤ m.log2 + e - 52) : 2 ^ 52 ≤ shortened m e a := by
  have places : m.log2 = 52 + surplus m e := by
    rw [surplus]
    omega
  have nonzero : m ≠ 0 := by
    rintro rfl
    exact absurd long (by decide)
  refine Nat.le_trans ?_ (shortened_bounds m e a).1
  rw [Nat.le_div_iff_mul_le (Nat.two_pow_pos _), ← Nat.pow_add, ← places]
  exact Nat.log2_self_le nonzero

theorem log2_le_of_lt {m k : Nat} (h : m < 2 ^ (k + 1)) : m.log2 ≤ k := by
  rcases Nat.eq_zero_or_pos m with rfl | positive
  · rw [Nat.log2_zero]
    exact Nat.zero_le k
  · exact Nat.le_of_lt_succ ((Nat.log2_lt (Nat.ne_of_gt positive)).mpr h)

theorem surplus_of_short {m : Nat} {e : Int} (short : m < 2 ^ 53) (least : -1074 ≤ e) :
    surplus m e = 0 := by
  have places := log2_le_of_lt short
  rw [surplus]
  omega

theorem surplus_of_full {e : Int} (least : -1074 ≤ e) : surplus (2 ^ 53) e = 1 := by
  rw [surplus, Nat.log2_two_pow]
  omega

theorem shiftToTargetExponent_eq (m : Nat) (e : Int) (a : Accuracy) :
    shiftToTargetExponent .binary64 m e a =
      (ExtendedMantissa.ofMantissaAndAccuracy m a >>> surplus m e, e + surplus m e) := by
  have target : Format.binary64.targetExponent (totalExponent m e) =
      max ((m.log2 : Int) + 1 + e - 53) (-1074) := rfl
  have places : (Format.binary64.targetExponent (totalExponent m e) - e).toNat = surplus m e := by
    rw [target, surplus]
    omega
  rw [shiftToTargetExponent, shiftToExponent, places]

theorem roundWithAccuracy_eq (s : Sign) (m : Nat) (e : Int) (a : Accuracy) :
    roundWithAccuracy .binary64 s m e a = carry s (shortened m e a) (e + surplus m e) := by
  have least : -1074 ≤ e + surplus m e := by
    rw [surplus]
    omega
  have low := shortened_le m e a
  rw [roundWithAccuracy, shiftToTargetExponent_eq]
  dsimp only
  rw [← shortened]
  -- the mantissa is shifted once more, as it may have been rounded up to the next power of two
  generalize shortened m e a = r at low
  generalize e + (surplus m e : Int) = e at least
  simp only [shiftToTargetExponent_eq, mantissa_shiftRight, mantissa_ofMantissaAndAccuracy, carry]
  by_cases short : r < 2 ^ 53
  · simp only [surplus_of_short short least, if_pos short, Nat.pow_zero, Nat.div_one,
      Int.cast_ofNat_Int, Int.add_zero]
  · obtain rfl : r = 2 ^ 53 := by omega
    simp only [surplus_of_full least]
    rfl

theorem rounded_carry {s : Sign} {m : Nat} {e : Int} (long : 2 ^ 52 ≤ m ∨ e = -1074)
    (least : -1074 ≤ e) : Rounded (carry s m e) := by
  unfold carry
  split
  · trivial
  · split
    · rename_i short
      exact ⟨short, long, least⟩
    · exact ⟨by decide, .inl (Nat.le_refl _), by omega⟩

theorem rounded_roundWithAccuracy {s : Sign} {m : Nat} {e : Int} {a : Accuracy}
    (enough : 52 ≤ m.log2 ∨ e ≤ -1074) : Rounded (roundWithAccuracy .binary64 s m e a) := by
  have exponent : e + surplus m e = max e (max (m.log2 + e - 52) (-1074)) := by
    rw [surplus]
    omega
  rw [roundWithAccuracy_eq]
  apply rounded_carry
  · by_cases least : -1074 < m.log2 + e - 52
    · exact .inl (shortened_of_long a (by omega) (by omega))
    · exact .inr (by omega)
  · omega

theorem log2_shiftLeft {m : Nat} (hm : m ≠ 0) (k : Nat) : (m <<< k).log2 = m.log2 + k := by
  have bounds := (Nat.log2_eq_iff hm).mp rfl
  have nonzero : m <<< k ≠ 0 := by simpa [Nat.shiftLeft_eq] using hm
  rw [Nat.log2_eq_iff nonzero, Nat.shiftLeft_eq, Nat.pow_add, Nat.add_right_comm, Nat.pow_add]
  exact ⟨Nat.mul_le_mul_right _ bounds.1, Nat.mul_lt_mul_of_pos_right bounds.2 (Nat.two_pow_pos k)⟩

theorem shiftRight_of_exact (m k : Nat) :
    ExtendedMantissa.ofMantissaAndAccuracy (m * 2 ^ k) .exact >>> k =
      .ofMantissaAndAccuracy m .exact := by
  change k.repeat ExtendedMantissa.shiftRightOne _ = _
  induction k generalizing m with
  | zero =>
    rw [Nat.pow_zero, Nat.mul_one]
    rfl
  | succ k ih =>
    rw [Nat.repeat, Nat.pow_succ', ← Nat.mul_assoc, ih (m * 2)]
    simp [ExtendedMantissa.ofMantissaAndAccuracy, ExtendedMantissa.shiftRightOne]

theorem roundWithAccuracy_exact {s : Sign} {m : Nat} {e : Int} {k : Nat} (positive : 0 < m)
    (long : 2 ^ 52 ≤ m) (low : m < 2 ^ 53) (least : -1074 ≤ e + k) :
    roundWithAccuracy .binary64 s (m * 2 ^ k) e .exact = .finite s m (e + k) positive := by
  have nonzero : m ≠ 0 := Nat.ne_of_gt positive
  have places : (m * 2 ^ k).log2 = 52 + k := by
    rw [← Nat.shiftLeft_eq, log2_shiftLeft nonzero, (Nat.log2_eq_iff nonzero).mpr ⟨long, low⟩]
  have lost : surplus (m * 2 ^ k) e = k := by
    rw [surplus, places]
    omega
  have kept : shortened (m * 2 ^ k) e .exact = m := by
    rw [shortened, lost, shiftRight_of_exact]
    rfl
  rw [roundWithAccuracy_eq, kept, lost, carry, dif_neg nonzero, if_pos low]

theorem carry_isNaN (s : Sign) (m : Nat) (e : Int) : (carry s m e).isNaN = false := by
  unfold carry
  split
  · rfl
  · split <;> rfl

theorem roundWithAccuracy_isNaN (s : Sign) (m : Nat) (e : Int) (a : Accuracy) :
    (roundWithAccuracy .binary64 s m e a).isNaN = false := by
  rw [roundWithAccuracy_eq]
  exact carry_isNaN _ _ _

theorem settle_isNaN (f : UnpackedFloat) : (settle f).isNaN = f.isNaN := by
  cases f with
  | finite s m e positive =>
    rw [settle]
    split <;> rfl
  | _ => rfl

theorem log2_mul_of_le {m n : Nat} (hm : m ≠ 0) (hn : n ≠ 0) :
    m.log2 + n.log2 ≤ (m * n).log2 := by
  rw [Nat.le_log2 (Nat.mul_ne_zero hm hn), Nat.pow_add]
  exact Nat.mul_le_mul (Nat.log2_self_le hm) (Nat.log2_self_le hn)

theorem Rounded.log2_eq {s : Sign} {m : Nat} {e : Int} {positive : 0 < m}
    (h : Rounded (.finite s m e positive)) (above : e ≠ -1074) : m.log2 = 52 :=
  (Nat.log2_eq_iff (Nat.ne_of_gt positive)).mpr ⟨h.2.1.resolve_right above, h.1⟩

theorem rounded_mul {f g : UnpackedFloat} (hf : Rounded f) (hg : Rounded g) :
    Rounded (mul .binary64 f g) := by
  cases f with
  | notANumber => trivial
  | zero | infinity => cases g <;> trivial
  | finite s m e positive => cases g with
    | finite s' m' e' positive' =>
      have places := log2_mul_of_le (Nat.ne_of_gt positive) (Nat.ne_of_gt positive')
      apply rounded_roundWithAccuracy
      by_cases least : e = -1074
      · by_cases least' : e' = -1074
        · exact .inr (by omega)
        · have long := hg.log2_eq least'
          exact .inl (by omega)
      · have long := hf.log2_eq least
        exact .inl (by omega)
    | _ => trivial

theorem shape_mul (x y : Float) : shape (x * y) = settle (mul .binary64 (shape x) (shape y)) :=
  shape_ofModel_pack (rounded_mul (rounded_shape x) (rounded_shape y))

def added (m₁ : Nat) (e₁ : Int) (m₂ : Nat) (e₂ : Int) : Nat :=
  (e₁ - e₂ - max (m₁.log2 + e₁ - m₂.log2 - e₂ - 53) (-1074)).toNat

theorem divCore_eq (m₁ m₂ : Nat) (e₁ e₂ : Int) : divCore .binary64 m₁ e₁ m₂ e₂ =
    (m₁ * 2 ^ added m₁ e₁ m₂ e₂ / m₂, e₁ - e₂ - added m₁ e₁ m₂ e₂,
      accuracyOfFraction (m₁ * 2 ^ added m₁ e₁ m₂ e₂ % m₂) m₂) := by
  have target : Format.binary64.targetExponent (totalExponent m₁ e₁ - totalExponent m₂ e₂) =
      max ((m₁.log2 : Int) + 1 + e₁ - (m₂.log2 + 1 + e₂) - 53) (-1074) := rfl
  have exponent : min (e₁ - e₂)
      (Format.binary64.targetExponent (totalExponent m₁ e₁ - totalExponent m₂ e₂)) =
        e₁ - e₂ - added m₁ e₁ m₂ e₂ := by
    rw [target, added]
    omega
  have places : (e₁ - e₂ - (e₁ - e₂ - (added m₁ e₁ m₂ e₂ : Int))).toNat = added m₁ e₁ m₂ e₂ := by
    omega
  simp only [divCore, exponent, places, Nat.shiftLeft_eq]

theorem le_log2_div {m n k : Nat} (hm : m ≠ 0) (hn : n ≠ 0) (h : n.log2 + 1 + k ≤ m.log2) :
    k ≤ (m / n).log2 := by
  have low : 2 ^ k ≤ m / n := by
    rw [Nat.le_div_iff_mul_le (Nat.pos_of_ne_zero hn), Nat.mul_comm]
    calc
      n * 2 ^ k ≤ 2 ^ (n.log2 + 1) * 2 ^ k := Nat.mul_le_mul_right _ (Nat.le_of_lt Nat.lt_log2_self)
      _ = 2 ^ (n.log2 + 1 + k) := (Nat.pow_add ..).symm
      _ ≤ 2 ^ m.log2 := Nat.pow_le_pow_right (by decide) h
      _ ≤ m := Nat.log2_self_le hm
  exact (Nat.le_log2 (Nat.ne_of_gt (Nat.lt_of_lt_of_le (Nat.two_pow_pos k) low))).mpr low

theorem rounded_div (f g : UnpackedFloat) : Rounded (div .binary64 f g) := by
  cases f with
  | notANumber => trivial
  | zero | infinity => cases g <;> trivial
  | finite s m e positive => cases g with
    | finite s' m' e' positive' =>
      have nonzero := Nat.ne_of_gt (Nat.mul_pos positive (Nat.two_pow_pos (added m e m' e')))
      have places := log2_shiftLeft (Nat.ne_of_gt positive) (added m e m' e')
      rw [Nat.shiftLeft_eq] at places
      rw [div, divCore_eq]
      apply rounded_roundWithAccuracy
      by_cases least : e - e' - added m e m' e' ≤ -1074
      · exact .inr least
      · refine .inl (le_log2_div nonzero (Nat.ne_of_gt positive') ?_)
        rw [places]
        rw [added] at least ⊢
        omega
    | _ => trivial

theorem shape_div (x y : Float) : shape (x / y) = settle (div .binary64 (shape x) (shape y)) :=
  shape_ofModel_pack (rounded_div _ _)

end HttpBridge.Floats
