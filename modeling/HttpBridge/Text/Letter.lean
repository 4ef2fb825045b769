namespace HttpBridge.Text

def lowerAscii (s : String) : String :=
  String.ofList (s.toList.map Char.toLower)

def sameName (a b : String) : Bool :=
  lowerAscii a == lowerAscii b

theorem sameName_iff {a b : String} : sameName a b = true ↔ lowerAscii a = lowerAscii b :=
  beq_iff_eq

theorem sameName_refl (a : String) : sameName a a = true :=
  beq_self_eq_true _

theorem sameName_symm {a b : String} (h : sameName a b = true) : sameName b a = true :=
  sameName_iff.mpr (sameName_iff.mp h).symm

theorem sameName_trans {a b c : String} (h : sameName a b = true) (h' : sameName b c = true) :
    sameName a c = true :=
  sameName_iff.mpr ((sameName_iff.mp h).trans (sameName_iff.mp h'))

theorem toLower_toLower (c : Char) : c.toLower.toLower = c.toLower := by
  by_cases capital : c.val ≥ 'A'.val ∧ c.val ≤ 'Z'.val
  · have low : 65 ≤ c.val.toNat := UInt32.le_iff_toNat_le.mp capital.1
    have high : c.val.toNat ≤ 90 := UInt32.le_iff_toNat_le.mp capital.2
    have moved : c.toLower.val.toNat = (c.val.toNat + 32) % 2 ^ 32 := by
      have lower : c.toLower = ⟨c.val + ('a'.val - 'A'.val), _⟩ := dif_pos capital
      rw [lower]
      exact UInt32.toNat_add ..
    have small : ¬(c.toLower.val ≥ 'A'.val ∧ c.toLower.val ≤ 'Z'.val) := by
      rintro ⟨-, still⟩
      have still : c.toLower.val.toNat ≤ 90 := UInt32.le_iff_toNat_le.mp still
      omega
    exact dif_neg small
  · have same : c.toLower = c := dif_neg capital
    rw [same, same]

theorem lowerAscii_lowerAscii (s : String) : lowerAscii (lowerAscii s) = lowerAscii s := by
  simp only [lowerAscii, String.toList_ofList, List.map_map]
  exact congrArg String.ofList (List.map_congr_left fun c _ => toLower_toLower c)

theorem sameName_lowerAscii (a b : String) : sameName (lowerAscii a) b = sameName a b := by
  rw [sameName, lowerAscii_lowerAscii, sameName]

/-- Holds the characters beyond ASCII whose capital form is made of ASCII letters. -/
def asciiCapitals : List (Char × List Char) :=
  [('ß', ['S', 'S']), ('ı', ['I']), ('ſ', ['S']), ('ﬀ', ['F', 'F']), ('ﬁ', ['F', 'I']),
   ('ﬂ', ['F', 'L']), ('ﬃ', ['F', 'F', 'I']), ('ﬄ', ['F', 'F', 'L']), ('ﬅ', ['S', 'T']),
   ('ﬆ', ['S', 'T'])]

/-- Gives the capital form of a character, as far as it is ASCII; other characters stay, and no
name that is looked for holds one. -/
def capital (c : Char) : List Char :=
  (asciiCapitals.lookup c).getD [c.toUpper]

def small (c : Char) : Char :=
  if c = '\u212A' then 'k' else c.toLower

def capitals (s : String) : String :=
  String.ofList (s.toList.flatMap capital)

def smalls (s : String) : String :=
  String.ofList (s.toList.map small)

end HttpBridge.Text
