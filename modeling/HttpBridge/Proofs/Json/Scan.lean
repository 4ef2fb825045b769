import HttpBridge.Json.Scan
import HttpBridge.Json.Write
/-!
Written texts fall into the tokens of their values. The blanks, escapes and number forms that the
scanner also takes never come from the writer.
-/

namespace HttpBridge.Json

theorem scanText_plain (d : Draft) {c : Char} (cs : List Char) (h₁ : c ≠ '\\') (h₂ : c ≠ '"')
    (h₃ : ¬ c < ' ') : scanText d .plain (c :: cs) = scanText (d.add c) .plain cs := by
  simp [scanText, h₁, h₂, h₃]

theorem scanText_simple (d : Draft) {c e : Char} (cs : List Char) (hu : c ≠ 'u')
    (h : simpleEscape c = some e) :
    scanText d .plain ('\\' :: c :: cs) = scanText (d.add e) .plain cs := by
  simp [scanText, h, hu, Draft.leave]

theorem scanText_unit (d : Draft) {c₁ c₂ c₃ c₄ : Char} {n₁ n₂ n₃ n₄ : Nat} (cs : List Char)
    (h₁ : Text.hexValue c₁ = some n₁) (h₂ : Text.hexValue c₂ = some n₂)
    (h₃ : Text.hexValue c₃ = some n₃) (h₄ : Text.hexValue c₄ = some n₄) :
    scanText d .plain ('\\' :: 'u' :: c₁ :: c₂ :: c₃ :: c₄ :: cs) =
      scanText (takeUnit d none (((n₁ * 16 + n₂) * 16 + n₃) * 16 + n₄)).1
        (takeUnit d none (((n₁ * 16 + n₂) * 16 + n₃) * 16 + n₄)).2 cs := by
  simp [scanText, h₁, h₂, h₃, h₄]

theorem takeUnit_control (d : Draft) {c : Char} (h : c < ' ') :
    takeUnit d none c.toNat = (d.add c, .plain) := by
  have hc : c.toNat < 32 := h
  have h₁ : isHighHalf c.toNat = false := by simp [isHighHalf]; omega
  have h₂ : isLowHalf c.toNat = false := by simp [isLowHalf]; omega
  simp [takeUnit, h₁, h₂]

theorem scanText_control (d : Draft) {c : Char} (cs : List Char) (h : c < ' ') :
    scanText d .plain ('\\' :: 'u' :: '0' :: '0' :: Text.hexDigit (c.toNat / 16)
      :: Text.hexDigit c.toNat :: cs) = scanText (d.add c) .plain cs := by
  have hc : c.toNat < 32 := h
  have hz : Text.hexValue '0' = some 0 := by decide
  have hn : ((0 * 16 + 0) * 16 + c.toNat / 16 % 16) * 16 + c.toNat % 16 = c.toNat := by omega
  rw [scanText_unit d cs hz hz (Text.hexValue_hexDigit _) (Text.hexValue_hexDigit _), hn,
    takeUnit_control d h]

theorem scanText_escape (d : Draft) (c : Char) (cs : List Char) :
    scanText d .plain (escape c ++ cs) = scanText (d.add c) .plain cs := by
  unfold escape
  split
  · exact scanText_simple d cs (by decide) rfl
  · exact scanText_simple d cs (by decide) rfl
  · exact scanText_simple d cs (by decide) rfl
  · exact scanText_simple d cs (by decide) rfl
  · exact scanText_simple d cs (by decide) rfl
  · exact scanText_simple d cs (by decide) rfl
  · exact scanText_simple d cs (by decide) rfl
  · split
    · rename_i h
      exact scanText_control d cs h
    · apply scanText_plain <;> assumption

theorem scanText_escapes (read cs rest : List Char) :
    scanText ⟨read, none⟩ .plain (cs.flatMap escape ++ rest) =
      scanText ⟨cs.reverse ++ read, none⟩ .plain rest := by
  induction cs generalizing read with
  | nil => rfl
  | cons c cs ih =>
    rw [List.flatMap_cons, List.append_assoc, scanText_escape]
    simp only [Draft.add, ih, List.reverse_cons, List.append_assoc, List.singleton_append]

theorem scanToken_text (s : String) (rest : List Char) :
    scanToken '"' (s.toList.flatMap escape ++ '"' :: rest) = (.text ⟨.ok s, none⟩, rest) := by
  have h : scanText ⟨[], none⟩ .plain (s.toList.flatMap escape ++ '"' :: rest) =
      (⟨.ok s, none⟩, rest) := by
    rw [scanText_escapes]
    simp [scanText, Draft.close]
  simp [scanToken, h]

/-- What may follow a value in a written text; no number goes on with it. -/
inductive Ends : List Char → Prop
  | text : Ends []
  | comma (cs : List Char) : Ends (',' :: cs)
  | list (cs : List Char) : Ends (']' :: cs)
  | object (cs : List Char) : Ends ('\x7d' :: cs)

theorem scanFraction_ends (n : Numeral) {rest : List Char} (h : Ends rest) :
    scanFraction n rest = (⟨n.scalar, none⟩, rest) := by
  cases h <;> rfl

theorem takeWhile_isDigit_append {ds rest : List Char} (hd : ∀ c ∈ ds, c.isDigit = true)
    (h : Ends rest) : (ds ++ rest).takeWhile Char.isDigit = ds := by
  have hr : rest.takeWhile Char.isDigit = [] := by
    cases h <;> simp
  rw [List.takeWhile_append_of_pos hd, hr, List.append_nil]

theorem dropWhile_isDigit_append {ds rest : List Char} (hd : ∀ c ∈ ds, c.isDigit = true)
    (h : Ends rest) : (ds ++ rest).dropWhile Char.isDigit = rest := by
  have hr : rest.dropWhile Char.isDigit = rest := by
    cases h <;> simp
  rw [List.dropWhile_append_of_pos hd, hr]

theorem scanNumber_toDigits (negative : Bool) (m : Nat) {rest : List Char} (h : Ends rest) :
    scanNumber negative (Nat.toDigits 10 m ++ rest) =
      (⟨(Numeral.scalar ⟨negative, Nat.toDigits 10 m, [], none⟩), none⟩, rest) := by
  have hd : ∀ c ∈ Nat.toDigits 10 m, c.isDigit = true :=
    fun c hc => Nat.isDigit_of_mem_toDigits (by decide) (by decide) hc
  by_cases hm : m = 0
  · subst hm
    have hh : (rest.head?.map Char.isDigit).getD false = false := by
      cases h <;> simp
    simp [scanNumber, hh, scanFraction_ends _ h]
  · cases hc : Nat.toDigits 10 m with
    | nil => exact absurd hc Nat.toDigits_ne_nil
    | cons c cs =>
      rw [hc] at hd
      have hz : c ≠ '0' := fun hz => Decimal.toDigits_ne_zero_cons (by omega) cs (hz ▸ hc)
      have ht := takeWhile_isDigit_append hd h
      have hdr := dropWhile_isDigit_append hd h
      rw [List.cons_append] at ht hdr ⊢
      unfold scanNumber
      split
      · rename_i heq
        exact absurd (List.cons.inj heq).1 hz
      · simp only [ht, hdr, List.isEmpty_cons, Bool.false_eq_true, if_false, scanFraction_ends _ h]

theorem scalar_toDigits {m : Nat} (h : m < UInt64.size) :
    Numeral.scalar ⟨false, Nat.toDigits 10 m, [], none⟩ = .ok (.integer m) := by
  simp [Numeral.scalar, h]

theorem scalar_negative {m : Nat} (h₀ : 0 < m) (h : m ≤ 1 <<< 63) :
    Numeral.scalar ⟨true, Nat.toDigits 10 m, [], none⟩ = .ok (.integer (-m)) := by
  have hm : ¬ 9223372036854775808 < m := Nat.not_lt.mpr h
  simp [Numeral.scalar, h₀, hm]

theorem scanToken_digit {c : Char} (cs : List Char) (h : c.isDigit = true) :
    scanToken c cs = (.scalar (scanNumber false (c :: cs)).1, (scanNumber false (c :: cs)).2) := by
  unfold scanToken
  split <;> simp_all

def IntegerFits (n : Int) : Prop :=
  -((1 <<< 63 : Nat) : Int) ≤ n ∧ n < UInt64.size

/-- Says that a text goes on with some tokens, after which `rest` is left. -/
def Scans (cs : List Char) (ts : List Token) (rest : List Char) : Prop :=
  ∀ fuel, cs.length ≤ fuel →
    ∃ left, rest.length ≤ left ∧ tokensUpTo fuel cs = ts ++ tokensUpTo left rest

theorem Scans.refl (cs : List Char) : Scans cs [] cs :=
  fun fuel hf => ⟨fuel, hf, rfl⟩

theorem Scans.trans {cs ds es : List Char} {ts us : List Token} (h : Scans cs ts ds)
    (h' : Scans ds us es) : Scans cs (ts ++ us) es := by
  intro fuel hf
  obtain ⟨left, hl, ht⟩ := h fuel hf
  obtain ⟨last, hr, hu⟩ := h' left hl
  exact ⟨last, hr, by rw [ht, hu, List.append_assoc]⟩

theorem Scans.token {c : Char} {cs rest : List Char} {t : Token} (hb : isBlank c = false)
    (h : scanToken c cs = (t, rest)) (hl : rest.length ≤ cs.length) : Scans (c :: cs) [t] rest := by
  intro fuel hf
  cases fuel with
  | zero => simp at hf
  | succ fuel =>
    rw [List.length_cons] at hf
    exact ⟨fuel, by omega, by simp [tokensUpTo, hb, h]⟩

theorem scans_text (s : String) (rest : List Char) :
    Scans (writeText s ++ rest) [.text ⟨.ok s, none⟩] rest := by
  have hl : rest.length ≤ (s.toList.flatMap escape ++ '"' :: rest).length := by
    rw [List.length_append, List.length_cons]
    omega
  have h := Scans.token (by decide) (scanToken_text s rest) hl
  simpa [writeText] using h

theorem not_isBlank_of_isDigit {c : Char} (h : c.isDigit = true) : isBlank c = false := by
  cases hb : isBlank c with
  | false => rfl
  | true =>
    simp only [isBlank, Bool.or_eq_true, beq_iff_eq] at hb
    obtain ((rfl | rfl) | rfl) | rfl := hb <;> cases h

theorem scans_number {m : Nat} {rest : List Char} (h : Ends rest) (hm : m < UInt64.size) :
    Scans (Nat.toDigits 10 m ++ rest) [.scalar ⟨.ok (.integer m), none⟩] rest := by
  have hn := scanNumber_toDigits false m h
  rw [scalar_toDigits hm] at hn
  cases hc : Nat.toDigits 10 m with
  | nil => exact absurd hc Nat.toDigits_ne_nil
  | cons c cs =>
    have hd : c.isDigit = true :=
      Nat.isDigit_of_mem_toDigits (b := 10) (n := m) (by decide) (by decide) (by simp [hc])
    rw [hc, List.cons_append] at hn
    rw [List.cons_append]
    apply Scans.token (not_isBlank_of_isDigit hd)
    · rw [scanToken_digit _ hd, hn]
    · simp

theorem scans_negative {m : Nat} {rest : List Char} (h : Ends rest) (h₀ : 0 < m)
    (hm : m ≤ 1 <<< 63) :
    Scans ('-' :: (Nat.toDigits 10 m ++ rest)) [.scalar ⟨.ok (.integer (-m)), none⟩] rest := by
  have hn := scanNumber_toDigits true m h
  rw [scalar_negative h₀ hm] at hn
  apply Scans.token (by decide)
  · simp [scanToken, hn]
  · simp

theorem scans_integer {n : Int} {rest : List Char} (h : Ends rest) (hn : IntegerFits n) :
    Scans ((toString n).toList ++ rest) [.scalar ⟨.ok (.integer n), none⟩] rest := by
  cases n with
  | ofNat m =>
    rw [show (toString (Int.ofNat m)).toList = Nat.toDigits 10 m from Nat.toList_repr]
    exact scans_number h (Int.ofNat_lt.mp hn.2)
  | negSucc m =>
    have ht : (toString (Int.negSucc m)).toList = '-' :: Nat.toDigits 10 (m + 1) := by
      simp [Int.toString_eq_repr, Int.repr]
    rw [ht]
    apply scans_negative h (Nat.succ_pos m)
    have := hn.1
    omega

end HttpBridge.Json
