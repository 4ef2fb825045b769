import HttpBridge.Proofs.Floats.Whole
import HttpBridge.Retry.Policy

namespace HttpBridge.Floats

open Float.Model (UnpackedFloat)
open Float.Model.UnpackedFloat

inductive AtLeastOne : UnpackedFloat → Prop
  | infinity : AtLeastOne (.infinity .positive)
  | finite {m : Nat} {e : Int} (positive : 0 < m) (long : 2 ^ 52 ≤ m) (least : -52 ≤ e) :
    AtLeastOne (.finite .positive m e positive)

inductive UpTo (k : Nat) : UnpackedFloat → Prop
  | finite {m : Nat} {e : Int} (positive : 0 < m) (long : 2 ^ 52 ≤ m) (low : m < 2 ^ 53)
    (least : -52 ≤ e) (most : e + 52 < k ∨ e + 52 = k ∧ m = 2 ^ 52) :
    UpTo k (.finite .positive m e positive)

section

variable {f g : UnpackedFloat} {j k m m' : Nat} {e e' : Int}

theorem UpTo.mono (h : UpTo j f) (le : j ≤ k) : UpTo k f := by
  obtain ⟨positive, long, low, least, most⟩ := h
  exact ⟨positive, long, low, least, by omega⟩

theorem UpTo.isFinite (h : UpTo k f) : f.isFinite = true := by
  cases h
  rfl

theorem UpTo.settle_eq (h : UpTo k f) (fits : k ≤ 1023) : settle f = f := by
  obtain ⟨positive, long, low, least, most⟩ := h
  exact if_pos (by omega)

theorem AtLeastOne.settle (h : AtLeastOne f) : AtLeastOne (settle f) := by
  cases h with
  | infinity => exact .infinity
  | finite positive long least =>
    rw [Floats.settle]
    split
    · exact .finite positive long least
    · exact .infinity

theorem atLeastOne_carry (long : 2 ^ 52 ≤ m) (least : -52 ≤ e) :
    AtLeastOne (carry .positive m e) := by
  unfold carry
  split
  · omega
  · split
    · exact .finite _ long least
    · exact .finite _ (Nat.le_refl _) (by omega)

theorem upTo_carry (long : 2 ^ 52 ≤ m) (least : -52 ≤ e) (most : e + 52 < k) :
    UpTo k (carry .positive m e) := by
  unfold carry
  split
  · omega
  · split
    · rename_i low
      exact ⟨_, long, low, least, .inl most⟩
    · exact ⟨_, Nat.le_refl _, by decide, by omega, by omega⟩

theorem roundWithAccuracy_mul (long : 2 ^ 52 ≤ m) (long' : 2 ^ 52 ≤ m') (least : -52 ≤ e)
    (least' : -52 ≤ e') : 104 ≤ (m * m').log2 ∧ ∃ n, 2 ^ 52 ≤ n ∧
      roundWithAccuracy .binary64 .positive (m * m') (e + e') .exact =
        carry .positive n ((m * m').log2 + (e + e') - 52) := by
  have places : 52 ≤ m.log2 := (Nat.le_log2 (by omega)).mpr long
  have places' : 52 ≤ m'.log2 := (Nat.le_log2 (by omega)).mpr long'
  have total : m.log2 + m'.log2 ≤ (m * m').log2 := log2_mul_of_le (by omega) (by omega)
  refine ⟨by omega, shortened (m * m') (e + e') .exact,
    shortened_of_long .exact (by omega) (by omega), ?_⟩
  rw [roundWithAccuracy_eq, surplus]
  congr 1
  omega

theorem AtLeastOne.mul (hf : AtLeastOne f) (hg : AtLeastOne g) :
    AtLeastOne (mul .binary64 f g) := by
  cases hf with
  | infinity => cases hg <;> exact .infinity
  | @finite m e positive long least => cases hg with
    | infinity => exact .infinity
    | @finite m' e' positive' long' least' =>
      obtain ⟨places, n, longer, product⟩ := roundWithAccuracy_mul long long' least least'
      change AtLeastOne (roundWithAccuracy .binary64 .positive (m * m') (e + e') .exact)
      rw [product]
      exact atLeastOne_carry longer (by omega)

theorem log2_mul_add_lt (positive : 0 < m) (positive' : 0 < m') (low : m < 2 ^ 53)
    (low' : m' < 2 ^ 53) (most : e + 52 < j) (most' : e' + 52 < k ∨ e' + 52 = k ∧ m' = 2 ^ 52) :
    (m * m').log2 + (e + e') < j + k := by
  have places : m.log2 < 53 := (Nat.log2_lt (Nat.ne_of_gt positive)).mpr low
  rcases most' with below | ⟨level, rfl⟩
  · have total : (m * m').log2 < 53 + 53 := by
      rw [Nat.log2_lt (Nat.ne_of_gt (Nat.mul_pos positive positive')), Nat.pow_add]
      exact Nat.mul_lt_mul'' low low'
    omega
  · have total : (m * 2 ^ 52).log2 = m.log2 + 52 := by
      rw [← Nat.shiftLeft_eq, log2_shiftLeft (Nat.ne_of_gt positive)]
    omega

theorem UpTo.mul (hf : UpTo j f) (hg : UpTo k g) : UpTo (j + k) (mul .binary64 f g) := by
  obtain @⟨m, e, positive, long, low, least, most⟩ := hf
  obtain @⟨m', e', positive', long', low', least', most'⟩ := hg
  obtain ⟨places, n, longer, product⟩ := roundWithAccuracy_mul long long' least least'
  change UpTo (j + k) (roundWithAccuracy .binary64 .positive (m * m') (e + e') .exact)
  rcases most with below | ⟨level, rfl⟩
  · have total := log2_mul_add_lt positive positive' low low' below most'
    rw [product]
    exact upTo_carry longer (by omega) (by omega)
  · rcases most' with below' | ⟨level', rfl⟩
    · have total := log2_mul_add_lt positive' positive low' low below' (.inr ⟨level, rfl⟩)
      rw [Nat.mul_comm] at total
      rw [product]
      exact upTo_carry longer (by omega) (by omega)
    · rw [roundWithAccuracy_exact (by decide) long low (by omega)]
      exact ⟨_, long, low, by omega, by omega⟩

theorem shape_one : shape 1 = .finite .positive (2 ^ 52) (-52) (by decide) := by
  have one : (1 : Float) = (1 : UInt64).toFloat := rfl
  have power : (1 : UInt64).toNat = 2 ^ 0 := rfl
  rw [one, shape_two_pow power]
  rfl

theorem atLeastOne_of_le {x : Float} (h : 1 ≤ x) : AtLeastOne (shape x) := by
  have rounded := rounded_shape x
  rw [le_iff, shape_one] at h
  generalize shape x = f at h rounded
  cases f with
  | notANumber | zero => rcases h with h | h <;> cases h
  | infinity s => cases s with
    | negative => rcases h with h | h <;> cases h
    | positive => exact .infinity
  | finite s m e positive => cases s with
    | negative => rcases h with h | h <;> cases h
    | positive =>
      have order := order_of_then (ne_gt_of_le h)
      obtain ⟨-, long, -⟩ := rounded
      exact .finite positive (by omega) (by omega)

theorem upTo_of_le {x : Float} {n : UInt64} (low : 1 ≤ x) (power : n.toNat = 2 ^ k)
    (h : x ≤ n.toFloat) : UpTo k (shape x) := by
  have rounded := rounded_shape x
  have low := atLeastOne_of_le low
  rw [le_iff, shape_two_pow power] at h
  generalize shape x = f at h rounded low
  cases low with
  | infinity => rcases h with h | h <;> cases h
  | finite positive long least =>
    have order := order_of_then (ne_gt_of_le h)
    exact ⟨positive, long, rounded.1, least, by omega⟩

end

variable {a r : Float}

theorem atLeastOne_mul (hr : AtLeastOne (shape r)) (ha : AtLeastOne (shape a)) :
    AtLeastOne (shape (r * a)) := by
  rw [shape_mul]
  exact (hr.mul ha).settle

theorem upTo_mul {j k : Nat} (hr : UpTo j (shape r)) (ha : UpTo k (shape a))
    (fits : j + k ≤ 1023) : UpTo (j + k) (shape (r * a)) := by
  rw [shape_mul, (hr.mul ha).settle_eq fits]
  exact hr.mul ha

theorem atLeastOne_powerFrom {fuel n : Nat} (hr : AtLeastOne (shape r))
    (ha : AtLeastOne (shape a)) : AtLeastOne (shape (powerFrom fuel r a n)) := by
  induction fuel generalizing r a n with
  | zero => exact hr
  | succ fuel ih =>
    have step : AtLeastOne (shape (if n % 2 = 1 then r * a else r)) := by
      split
      · exact atLeastOne_mul hr ha
      · exact hr
    rw [powerFrom]
    split
    · exact step
    · exact ih step (atLeastOne_mul ha ha)

theorem upTo_powerFrom {fuel n j k : Nat} (hr : UpTo j (shape r)) (ha : UpTo k (shape a))
    (fits : j + k * n ≤ 1023) : UpTo (j + k * n) (shape (powerFrom fuel r a n)) := by
  induction fuel generalizing r a n j k with
  | zero => exact hr.mono (Nat.le_add_right _ _)
  | succ fuel ih =>
    have halves : k * n = k * (n % 2) + (k + k) * (n / 2) := by
      rw [← Nat.mul_two, Nat.mul_assoc, ← Nat.mul_add, Nat.mod_add_div]
    have step : UpTo (j + k * (n % 2)) (shape (if n % 2 = 1 then r * a else r)) := by
      split
      · rename_i odd
        rw [odd] at halves ⊢
        rw [Nat.mul_one] at halves ⊢
        exact upTo_mul hr ha (by omega)
      · exact hr.mono (Nat.le_add_right _ _)
    rw [powerFrom]
    split
    · exact step.mono (by omega)
    · rename_i more
      have twice := Nat.mul_le_mul_left (k + k) (Nat.pos_of_ne_zero more)
      rw [halves, ← Nat.add_assoc]
      exact ih step (upTo_mul ha ha (by omega)) (by omega)

theorem settle_carry_isFinite {s : Sign} {m : Nat} {e : Int} (h : e < 971) :
    (settle (carry s m e)).isFinite = true := by
  unfold carry
  split
  · rfl
  · split
    · rw [settle, if_pos (by omega)]
      rfl
    · rw [settle, if_pos (by omega)]
      rfl

theorem isFinite_reciprocal (h : AtLeastOne (shape r)) : (1 / r).isFinite = true := by
  rw [isFinite_eq, shape_div, shape_one]
  generalize shape r = f at h ⊢
  cases h with
  | infinity => rfl
  | @finite m e positive long least =>
    rw [div, divCore_eq]
    generalize added (2 ^ 52) (-52) m e = k
    have low : 2 ^ 52 * 2 ^ k / m ≤ 2 ^ k :=
      Nat.div_le_of_le_mul (Nat.mul_le_mul_right _ long)
    have places := log2_le_of_lt (Nat.lt_of_le_of_lt low (Nat.pow_lt_pow_succ (by decide)))
    dsimp only
    rw [roundWithAccuracy_eq]
    apply settle_carry_isFinite
    rw [surplus]
    omega

theorem power_zero (a : Float) : power a 0 = 1 :=
  rfl

theorem isFinite_power_of_neg {n : Int32} (ha : AtLeastOne (shape a)) (negative : n < 0) :
    (power a n).isFinite = true := by
  rw [power, if_pos negative]
  exact isFinite_reciprocal (atLeastOne_powerFrom (atLeastOne_of_le (by decide)) ha)

theorem isFinite_power_of_fits {n : Int32} {k : Nat} (ha : UpTo k (shape a)) (positive : 0 ≤ n)
    (fits : k * n.toInt.natAbs ≤ 1023) : (power a n).isFinite = true := by
  have one : UpTo 0 (shape 1) := by
    rw [shape_one]
    exact ⟨by decide, by decide, by decide, by decide, by decide⟩
  rw [power, if_neg (Int32.not_lt.mpr positive), isFinite_eq]
  exact (upTo_powerFrom one ha (by omega)).isFinite

end HttpBridge.Floats
