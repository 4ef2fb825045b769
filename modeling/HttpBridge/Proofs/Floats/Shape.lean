import Mathlib
/-!
Floats as sign, mantissa and exponent. A mantissa has 53 bits, or fewer at the least exponent; a
number that is too large for the greatest exponent is stored as infinite.
-/

namespace HttpBridge.Floats

open Float.Model (Format UnpackedFloat)
open Float.Model.UnpackedFloat

def shape (x : Float) : UnpackedFloat :=
  x.toModel.unpack

def Rounded : UnpackedFloat → Prop
  | .finite _ m e _ => m < 2 ^ 53 ∧ (2 ^ 52 ≤ m ∨ e = -1074) ∧ -1074 ≤ e
  | _ => True

def settle : UnpackedFloat → UnpackedFloat
  | .finite s m e h => if e ≤ 971 then .finite s m e h else .infinity s
  | f => f

def ofFields (s : Sign) (e : BitVec 11) (m : BitVec 52) : UnpackedFloat :=
  if e = -1#11 then if m = 0#52 then .infinity s else .notANumber
  else if e = 0#11 then
    if h : m = 0#52 then .zero s
    else .finite s m.toNat (-1074) (by simpa [BitVec.toNat_pos, BitVec.pos_iff_ne_zero])
  else .finite s (2 ^ 52 + m.toNat) (e.toNat - 1075) (by omega)

theorem toNat_one_append (m : BitVec 52) : (1#1 ++ m).toNat = 2 ^ 52 + m.toNat := by
  rw [BitVec.toNat_append, ← Nat.shiftLeft_add_eq_or_of_lt m.isLt]
  rfl

theorem unpack_eq_ofFields (b : BitVec Format.binary64.numBits) : unpack .binary64 b =
    ofFields (Sign.ofBitVec (unpackSign b)) (unpackExponent b) (unpackMantissa b) := by
  unfold unpack ofFields
  simp only [toNat_one_append]
  split
  · rfl
  · split
    · rename_i least
      split
      · rfl
      · simp only [least]
        rfl
    · rfl

theorem rounded_ofFields (s : Sign) (e : BitVec 11) (m : BitVec 52) : Rounded (ofFields s e m) := by
  have fraction := m.isLt
  unfold ofFields
  split
  · split <;> trivial
  · split
    · split
      · trivial
      · exact ⟨by omega, .inr rfl, by omega⟩
    · rename_i notLeast
      have notLeast : e.toNat ≠ 0 := fun h => notLeast (BitVec.eq_of_toNat_eq h)
      exact ⟨by omega, .inl (by omega), by omega⟩

theorem settle_ofFields (s : Sign) (e : BitVec 11) (m : BitVec 52) :
    settle (ofFields s e m) = ofFields s e m := by
  have exponent := e.isLt
  unfold ofFields
  split
  · split <;> rfl
  · split
    · split <;> rfl
    · rename_i notLast _
      have notLast : e.toNat ≠ 2047 := fun h => notLast (BitVec.eq_of_toNat_eq h)
      exact if_pos (by omega)

theorem rounded_shape (x : Float) : Rounded (shape x) := by
  rw [shape, Float.Model.unpack, unpack_eq_ofFields]
  exact rounded_ofFields _ _ _

theorem unpack_packComponents (s : Sign) (e : BitVec 11) (m : BitVec 52) :
    unpack .binary64 (packComponents .binary64 s e m) = ofFields s e m := by
  rw [unpack_eq_ofFields, unpackSign_packComponents, unpackExponent_packComponents,
    unpackMantissa_packComponents, Sign.ofBitVec_toBitVec]

theorem pack_finite {s : Sign} {m : Nat} {e : Int} (positive : 0 < m) :
    pack .binary64 (.finite s m e positive) =
      if 2 ^ 11 ≤ (e + 1075).toNat + 1 then packedInfinity .binary64 s
      else if m.log2 + 1 = 53 then
        packComponents .binary64 s (BitVec.ofNat 11 (e + 1075).toNat) (BitVec.ofNat 52 m)
      else packComponents .binary64 s 0#11 (BitVec.ofNat 52 m) := by
  have bias : e + (Format.exponentBias .binary64 : Nat) + (52 : Nat) = e + 1075 := by
    rw [Int.add_assoc]
    rfl
  rw [pack]
  simp only [bias]
  rfl

theorem ofFields_of_long {s : Sign} {m : Nat} {e : Int} (positive : 0 < m) (low : m < 2 ^ 53)
    (long : 2 ^ 52 ≤ m) (least : -1074 ≤ e) (most : e ≤ 971) :
    ofFields s (BitVec.ofNat 11 (e + 1075).toNat) (BitVec.ofNat 52 m) =
      .finite s m e positive := by
  have exponent : (BitVec.ofNat 11 (e + 1075).toNat).toNat = (e + 1075).toNat := by
    rw [BitVec.toNat_ofNat]
    omega
  have notLast : BitVec.ofNat 11 (e + 1075).toNat ≠ -1#11 := fun h => by
    rw [h] at exponent
    change 2047 = _ at exponent
    omega
  have notLeast : BitVec.ofNat 11 (e + 1075).toNat ≠ 0#11 := fun h => by
    rw [h] at exponent
    change 0 = _ at exponent
    omega
  rw [ofFields, if_neg notLast, if_neg notLeast, UnpackedFloat.finite.injEq, exponent,
    BitVec.toNat_ofNat]
  exact ⟨rfl, by omega, by omega⟩

theorem ofFields_of_short {s : Sign} {m : Nat} (positive : 0 < m) (short : m < 2 ^ 52) :
    ofFields s 0#11 (BitVec.ofNat 52 m) = .finite s m (-1074) positive := by
  have fraction : (BitVec.ofNat 52 m).toNat = m := by
    rw [BitVec.toNat_ofNat]
    omega
  have nonzero : BitVec.ofNat 52 m ≠ 0#52 := fun h => by
    rw [h] at fraction
    change 0 = _ at fraction
    omega
  rw [ofFields, if_neg (by decide), if_pos rfl, dif_neg nonzero, UnpackedFloat.finite.injEq,
    fraction]
  exact ⟨rfl, rfl, rfl⟩

theorem unpack_pack {f : UnpackedFloat} (h : Rounded f) :
    unpack .binary64 (pack .binary64 f) = settle f := by
  cases f with
  | infinity s => exact unpack_packComponents _ _ _
  | notANumber => exact unpack_packComponents _ _ _
  | zero s => exact unpack_packComponents _ _ _
  | finite s m e positive =>
    obtain ⟨low, long, least⟩ := h
    have nonzero : m ≠ 0 := Nat.ne_of_gt positive
    rw [settle, pack_finite]
    by_cases most : e ≤ 971
    · rw [if_neg (by omega), if_pos most]
      by_cases normal : 2 ^ 52 ≤ m
      · rw [if_pos (by rw [(Nat.log2_eq_iff nonzero).mpr ⟨normal, low⟩]), unpack_packComponents]
        exact ofFields_of_long positive low normal least most
      · obtain rfl := long.resolve_left normal
        have short := Nat.lt_of_not_le normal
        have bits := (Nat.log2_lt nonzero).mpr short
        rw [if_neg (by omega), unpack_packComponents]
        exact ofFields_of_short positive short
    · rw [if_pos (by omega), if_neg most]
      exact unpack_packComponents _ _ _

theorem shape_ofModel_pack {f : UnpackedFloat} (h : Rounded f) :
    shape (.ofModel (.pack f)) = settle f :=
  unpack_pack h

theorem shape_ofBits (bits : UInt64) : shape (Float.ofBits bits) =
    unpack Format.binary64 bits.toBitVec := by
  have rounded : Rounded (unpack Format.binary64 bits.toBitVec) := by
    rw [unpack_eq_ofFields]
    exact rounded_ofFields _ _ _
  rw [Float.ofBits, Float.Model.ofBits, shape_ofModel_pack rounded, unpack_eq_ofFields,
    settle_ofFields]

end HttpBridge.Floats
