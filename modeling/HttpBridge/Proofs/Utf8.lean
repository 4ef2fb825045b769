import HttpBridge.Text.Utf8

namespace HttpBridge.Utf8

@[simp] theorem encodeChars_nil : encodeChars [] = [] := rfl

theorem encodeChars_cons (c : Char) (cs : List Char) :
    encodeChars (c :: cs) = String.utf8EncodeChar c ++ encodeChars cs := rfl

@[simp] theorem encodeChars_append (cs ds : List Char) :
    encodeChars (cs ++ ds) = encodeChars cs ++ encodeChars ds :=
  List.flatMap_append

theorem encode_ofList (cs : List Char) : encode (.ofList cs) = encodeChars cs := by
  rw [encode, String.toList_ofList]

theorem encode_append (s t : String) : encode (s ++ t) = encode s ++ encode t := by
  rw [encode, String.toList_append, encodeChars_append, encode, encode]

theorem utf8EncodeChar_ascii {c : Char} (h : c.toNat < 0x80) :
    String.utf8EncodeChar c = [.ofNat c.toNat] := by
  have low : c.val.toNat ≤ 0x7f := Nat.le_of_lt_succ h
  rw [String.utf8EncodeChar, if_pos low]
  rfl

theorem encodeChars_ascii {cs : List Char} (h : ∀ c ∈ cs, c.toNat < 0x80) :
    encodeChars cs = cs.map fun c => .ofNat c.toNat := by
  induction cs with
  | nil => rfl
  | cons c cs ih =>
    obtain ⟨first, rest⟩ := List.forall_mem_cons.mp h
    rw [encodeChars_cons, utf8EncodeChar_ascii first, ih rest]
    rfl

def tailByte (n : Nat) : UInt8 :=
  .ofNat (n % 64 + 0x80)

theorem toNat_tailByte (n : Nat) : (tailByte n).toNat = n % 64 + 0x80 := by
  have low : n % 64 < 64 := Nat.mod_lt n (by decide)
  exact UInt8.toNat_ofNat_of_lt (by simp only [UInt8.size]; omega)

theorem isTail_tailByte (n : Nat) : isTail (tailByte n) = true := by
  have value := toNat_tailByte n
  simp only [isTail, Bool.and_eq_true, decide_eq_true_eq, UInt8.le_iff_toNat_le, UInt8.reduceToNat]
  omega

theorem tails_tailByte (n bits k : Nat) (bs : List UInt8) :
    tails (n + 1) bits (tailByte k :: bs) = tails n (bits * 64 + k % 64) bs := by
  rw [tails, if_pos (isTail_tailByte k), toNat_tailByte, Nat.add_sub_cancel]

theorem lead_two {n : Nat} (low : 2 ≤ n) (high : n < 32) :
    lead (.ofNat (n + 0xC0)) = some (1, 0x80, 0xBF) := by
  revert low
  revert n
  decide

theorem lead_three {n : Nat} (high : n < 16) :
    lead (.ofNat (n + 0xE0)) =
      some (2, if n = 0 then 0xA0 else 0x80, if n = 13 then 0x9F else 0xBF) := by
  revert n
  decide

theorem lead_four {n : Nat} (high : n < 5) :
    lead (.ofNat (n + 0xF0)) =
      some (3, if n = 0 then 0x90 else 0x80, if n = 4 then 0x8F else 0xBF) := by
  revert n
  decide

theorem next_ascii {b : UInt8} (small : b < 0x80) (bs : List UInt8) :
    next b bs = (some (.ofNat b.toNat), bs) :=
  if_pos small

theorem next_lead {b c lo hi : UInt8} {n m bits : Nat} {bs rest : List UInt8}
    (large : ¬ b < 0x80) (found : lead b = some (n + 1, lo, hi)) (low : lo ≤ c) (high : c ≤ hi)
    (held : 1 <<< (6 - (n + 1)) = m)
    (full : tails n (b.toNat % m * 64 + (c.toNat - 0x80)) bs = (some bits, rest)) :
    next b (c :: bs) = (some (.ofNat bits), rest) := by
  simp only [next, if_neg large, found, low, high, decide_true, Bool.and_self, if_true,
    Nat.add_sub_cancel, held, full]

section

variable {v : Nat} (rest : List UInt8)

theorem next_two (low : 0x80 ≤ v) (high : v < 0x800) :
    next (.ofNat (v / 64 % 32 + 0xC0)) (tailByte v :: rest) = (some (.ofNat v), rest) := by
  have value : (UInt8.ofNat (v / 64 % 32 + 0xC0)).toNat = v / 64 % 32 + 0xC0 :=
    UInt8.toNat_ofNat_of_lt (by simp only [UInt8.size]; omega)
  refine next_lead (m := 32) ?_ (lead_two (by omega) (by omega)) ?_ ?_ rfl ?_
  · simp only [UInt8.lt_iff_toNat_lt, value, UInt8.reduceToNat]
    omega
  · simp only [UInt8.le_iff_toNat_le, toNat_tailByte, UInt8.reduceToNat]
    omega
  · simp only [UInt8.le_iff_toNat_le, toNat_tailByte, UInt8.reduceToNat]
    omega
  · rw [tails, value, toNat_tailByte]
    have bits : (v / 64 % 32 + 0xC0) % 32 * 64 + (v % 64 + 0x80 - 0x80) = v := by omega
    rw [bits]

theorem next_three (low : 0x800 ≤ v) (high : v < 0x10000) (valid : v < 0xD800 ∨ 0xDFFF < v) :
    next (.ofNat (v / 4096 % 16 + 0xE0)) (tailByte (v / 64) :: tailByte v :: rest) =
      (some (.ofNat v), rest) := by
  have value : (UInt8.ofNat (v / 4096 % 16 + 0xE0)).toNat = v / 4096 % 16 + 0xE0 :=
    UInt8.toNat_ofNat_of_lt (by simp only [UInt8.size]; omega)
  refine next_lead (m := 16) ?_ (lead_three (by omega)) ?_ ?_ rfl ?_
  · simp only [UInt8.lt_iff_toNat_lt, value, UInt8.reduceToNat]
    omega
  · simp only [UInt8.le_iff_toNat_le, toNat_tailByte]
    split <;> simp only [UInt8.reduceToNat] <;> omega
  · simp only [UInt8.le_iff_toNat_le, toNat_tailByte]
    split <;> simp only [UInt8.reduceToNat] <;> omega
  · rw [tails_tailByte, tails, value, toNat_tailByte]
    congr 2
    omega

theorem next_four (low : 0x10000 ≤ v) (high : v < 0x110000) :
    next (.ofNat (v / 262144 % 8 + 0xF0))
        (tailByte (v / 4096) :: tailByte (v / 64) :: tailByte v :: rest) =
      (some (.ofNat v), rest) := by
  have value : (UInt8.ofNat (v / 262144 % 8 + 0xF0)).toNat = v / 262144 % 8 + 0xF0 :=
    UInt8.toNat_ofNat_of_lt (by simp only [UInt8.size]; omega)
  refine next_lead (m := 8) ?_ (lead_four (by omega)) ?_ ?_ rfl ?_
  · simp only [UInt8.lt_iff_toNat_lt, value, UInt8.reduceToNat]
    omega
  · simp only [UInt8.le_iff_toNat_le, toNat_tailByte]
    split <;> simp only [UInt8.reduceToNat] <;> omega
  · simp only [UInt8.le_iff_toNat_le, toNat_tailByte]
    split <;> simp only [UInt8.reduceToNat] <;> omega
  · rw [tails_tailByte, tails_tailByte, tails, value, toNat_tailByte]
    congr 2
    omega

end

theorem pieces_utf8EncodeChar (c : Char) (rest : List UInt8) :
    pieces (String.utf8EncodeChar c ++ rest) = some c :: pieces rest := by
  have valid : c.val.toNat < 0xD800 ∨ 0xDFFF < c.val.toNat ∧ c.val.toNat < 0x110000 := c.valid
  have back : Char.ofNat c.val.toNat = c := Char.ofNat_toNat c
  rw [String.utf8EncodeChar]
  generalize c.val.toNat = v at valid back
  -- one case for each number of bytes that a character may have
  rw [← back]
  split
  · have value : (UInt8.ofNat v).toNat = v :=
      UInt8.toNat_ofNat_of_lt (by simp only [UInt8.size]; omega)
    have small : UInt8.ofNat v < 0x80 := by
      simp only [UInt8.lt_iff_toNat_lt, value, UInt8.reduceToNat]
      omega
    rw [List.singleton_append, pieces, next_ascii small, value]
  · split
    · change pieces (_ :: tailByte v :: rest) = _
      rw [pieces, next_two rest (by omega) (by omega)]
    · split
      · change pieces (_ :: tailByte (v / 64) :: tailByte v :: rest) = _
        rw [pieces, next_three rest (by omega) (by omega) (by omega)]
      · change pieces (_ :: tailByte (v / 4096) :: tailByte (v / 64) :: tailByte v :: rest) = _
        rw [pieces, next_four rest (by omega) (by omega)]

theorem pieces_encodeChars (cs : List Char) : pieces (encodeChars cs) = cs.map some := by
  induction cs with
  | nil => rw [encodeChars_nil, pieces, List.map_nil]
  | cons c cs ih => rw [encodeChars_cons, pieces_utf8EncodeChar, ih, List.map_cons]

theorem decode?_encodeChars (cs : List Char) : decode? (encodeChars cs) = some (.ofList cs) := by
  have whole : (cs.map some).mapM id = some cs := by
    rw [List.mapM_map]
    exact List.mapM_pure.trans (congrArg some (List.map_id cs))
  rw [decode?, pieces_encodeChars, whole, Option.map_some]

theorem decode?_encode (s : String) : decode? (encode s) = some s := by
  rw [encode, decode?_encodeChars, String.ofList_toList]

theorem encode_injective {s t : String} (h : encode s = encode t) : s = t := by
  have same := decode?_encode t
  rw [← h, decode?_encode] at same
  exact Option.some.inj same

end HttpBridge.Utf8
