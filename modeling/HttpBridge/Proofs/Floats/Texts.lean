import HttpBridge.Decimal.Float
import HttpBridge.Proofs.Floats.Order

namespace HttpBridge.Decimal

open Float.Model (Format)
open Float.Model.UnpackedFloat
open Floats

def SpellsNaN (cs : List Char) : Prop :=
  ∃ sign name, cs = sign ++ name ∧ sign ∈ [[], ['+'], ['-']] ∧ name.map Char.toLower = "nan".toList

theorem toNat_unpackExponent (b : BitVec Format.binary64.numBits) :
    (unpackExponent b).toNat = b.toNat / 2 ^ 52 % 2 ^ 11 := by
  rw [unpackExponent_def, BitVec.extractLsb'_toNat, Nat.shiftRight_eq_div_pow]

theorem toNat_unpackMantissa (b : BitVec Format.binary64.numBits) :
    (unpackMantissa b).toNat = b.toNat % 2 ^ 52 := by
  rw [unpackMantissa_def, BitVec.extractLsb'_toNat, Nat.shiftRight_zero]

theorem signedFloat_isNaN (negative : Bool) {bits : Nat} (h : bits ≤ infinityBits) :
    (signedFloat negative bits).isNaN = false := by
  have limit : infinityBits = 2047 * 2 ^ 52 := rfl
  have sign : signBit = 2 ^ 11 * 2 ^ 52 := rfl
  obtain ⟨b, whole⟩ : ∃ b : BitVec Format.binary64.numBits,
      b = (UInt64.ofNat (if negative then signBit + bits else bits)).toBitVec := ⟨_, rfl⟩
  have value : b.toNat = if negative then signBit + bits else bits := by
    rw [whole, UInt64.toNat_toBitVec, UInt64.toNat_ofNat']
    cases negative <;> simp <;> omega
  rw [isNaN_eq, signedFloat, shape_ofBits, ← whole, unpack_eq_ofFields]
  have exponent := toNat_unpackExponent b
  have fraction := toNat_unpackMantissa b
  unfold ofFields
  split
  · rename_i last
    rw [last] at exponent
    change 2047 = _ at exponent
    -- with the last exponent the bits are those of the infinite number
    have none : unpackMantissa b = 0#52 := by
      apply BitVec.eq_of_toNat_eq
      rw [fraction]
      change _ = 0
      cases negative <;> simp at value <;> omega
    rw [if_pos none]
    rfl
  · split
    · split <;> rfl
    · rfl

theorem notANumber_isNaN : notANumber.isNaN = true :=
  rfl

theorem nearestBits_le (n d : Nat) : nearestBits n d ≤ infinityBits := by
  unfold nearestBits
  split
  · exact Nat.zero_le _
  · exact Nat.min_le_left _ _

theorem scaledBits_le (digits : Nat) (exponent : Int) :
    scaledBits digits exponent ≤ infinityBits := by
  unfold scaledBits
  dsimp only
  split
  · exact Nat.zero_le _
  · split
    · exact Nat.le_refl _
    · cases exponent with
      | ofNat k => exact nearestBits_le _ _
      | negSucc k => exact nearestBits_le _ _

theorem readDecimal_le {cs : List Char} {bits : Nat} (h : readDecimal cs = some bits) :
    bits ≤ infinityBits := by
  unfold readDecimal at h
  dsimp only at h
  -- the digits are read in the same way with a point and without
  split at h <;> dsimp only at h
  all_goals
    split at h
    · cases h
    · split at h
      · obtain rfl := Option.some.inj h
        exact scaledBits_le _ _
      · split at h
        · obtain ⟨e, -, rfl⟩ := Option.map_eq_some_iff.mp h
          exact scaledBits_le _ _
        · cases h

theorem readUnsigned_isNaN {negative : Bool} {cs : List Char} {x : Float}
    (h : readUnsigned negative cs = some x) :
    x.isNaN = true ↔ cs.map Char.toLower = "nan".toList := by
  have spelled (name : String) :
      String.ofList (cs.map Char.toLower) = name ↔ cs.map Char.toLower = name.toList := by
    rw [← String.toList_inj, String.toList_ofList]
  unfold readUnsigned at h
  simp only [Bool.or_eq_true, decide_eq_true_eq, spelled] at h
  split at h
  · rename_i infinite
    obtain rfl := Option.some.inj h
    simp only [signedFloat_isNaN negative (Nat.le_refl _), Bool.false_eq_true, false_iff]
    rcases infinite with infinite | infinite <;> rw [infinite] <;> decide
  · split at h
    · rename_i nan
      obtain rfl := Option.some.inj h
      simp only [notANumber_isNaN, nan]
    · rename_i nan
      obtain ⟨bits, read, rfl⟩ := Option.map_eq_some_iff.mp h
      simp only [signedFloat_isNaN negative (readDecimal_le read), nan, Bool.false_eq_true]

theorem spellsNaN_cons {c : Char} {cs : List Char} : SpellsNaN (c :: cs) ↔
    (if c = '-' ∨ c = '+' then cs else c :: cs).map Char.toLower = "nan".toList := by
  constructor
  · rintro ⟨sign, name, split, known, spelled⟩
    simp only [List.mem_cons, List.not_mem_nil, or_false] at known
    rcases known with rfl | rfl | rfl
    · rw [List.nil_append] at split
      subst split
      have letter : c ≠ '-' ∧ c ≠ '+' := by
        rw [List.map_cons] at spelled
        constructor <;> rintro rfl <;> exact absurd (List.cons.inj spelled).1 (by decide)
      rwa [if_neg (not_or.mpr letter)]
    · obtain ⟨rfl, rfl⟩ := List.cons.inj split
      rwa [if_pos (.inr rfl)]
    · obtain ⟨rfl, rfl⟩ := List.cons.inj split
      rwa [if_pos (.inl rfl)]
  · intro spelled
    by_cases sign : c = '-' ∨ c = '+'
    · rw [if_pos sign] at spelled
      refine ⟨[c], cs, rfl, ?_, spelled⟩
      rcases sign with rfl | rfl <;> decide
    · rw [if_neg sign] at spelled
      exact ⟨[], c :: cs, rfl, List.mem_cons_self, spelled⟩

/-- What is read is no number just if the text says so. -/
theorem readFloat_isNaN {s : String} {x : Float} (h : readFloat s = .ok x) :
    x.isNaN = true ↔ SpellsNaN s.toList := by
  unfold readFloat at h
  cases chars : s.toList with
  | nil =>
    rw [chars] at h
    cases h
  | cons c cs =>
    rw [chars, readFloatChars] at h
    rw [spellsNaN_cons]
    split at h
    · rename_i x' read
      cases h
      by_cases minus : c = '-'
      · rw [if_pos minus] at read
        rw [if_pos (.inl minus)]
        exact readUnsigned_isNaN read
      · rw [if_neg minus] at read
        by_cases plus : c = '+'
        · rw [if_pos plus] at read
          rw [if_pos (.inr plus)]
          exact readUnsigned_isNaN read
        · rw [if_neg plus] at read
          rw [if_neg (not_or.mpr ⟨minus, plus⟩)]
          exact readUnsigned_isNaN read
    · cases h

end HttpBridge.Decimal
