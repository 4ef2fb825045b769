import HttpBridge.Client.Settings
import HttpBridge.Proofs.Items
import Mathlib
/-!
Names of variants. A text is read as the variant whose name it spells, with or without blanks around
it, and is reported as it was given if it spells none. Names in capitals may also be spelled with
the few characters beyond ASCII whose capitals they have; names in small letters are spelled in
ASCII.
-/

namespace HttpBridge

namespace Text

def IsAscii (c : Char) : Prop :=
  c.toNat < 128

instance (c : Char) : Decidable (IsAscii c) :=
  inferInstanceAs (Decidable (c.toNat < 128))

def standIns : List (Char × List Char) :=
  [('ı', ['I']), ('ſ', ['S']), ('ﬅ', ['S', 'T']), ('ﬆ', ['S', 'T'])]

/-- Says that characters stand for those of a name: each for one, in capitals or not, or for the
ones that it is a stand-in of. -/
inductive StandsFor : List Char → List Char → Prop
  | done : StandsFor [] []
  | letter {c l : Char} {cs ls : List Char} (same : c.toLower = l.toLower)
      (rest : StandsFor cs ls) : StandsFor (c :: cs) (l :: ls)
  | standIn {c : Char} {letters cs ls : List Char} (known : (c, letters) ∈ standIns)
      (rest : StandsFor cs ls) : StandsFor (c :: cs) (letters ++ ls)

structure InCapitals (ls : List Char) : Prop where
  letters : ∀ l ∈ ls, IsAscii l ∧ l.toUpper = l
  known : ∀ e ∈ asciiCapitals, e.2 <:+: ls → e ∈ standIns

def InSmalls (ls : List Char) : Prop :=
  ∀ l ∈ ls, IsAscii l ∧ l.toLower = l ∧ l ≠ 'k'

-- the letters are looked at one by one; the instance that is found goes through all characters
instance (ls : List Char) : Decidable (InCapitals ls) :=
  have : Decidable (∀ l ∈ ls, IsAscii l ∧ l.toUpper = l) := List.decidableBAll _ ls
  decidable_of_iff ((∀ l ∈ ls, IsAscii l ∧ l.toUpper = l) ∧
      ∀ e ∈ asciiCapitals, e.2 <:+: ls → e ∈ standIns)
    ⟨fun h => ⟨h.1, h.2⟩, fun h => ⟨h.letters, h.known⟩⟩

instance (ls : List Char) : Decidable (InSmalls ls) :=
  List.decidableBAll _ ls

variable {c l : Char} {cs ls : List Char} {s name : String}

section Ascii

theorem isAscii_toLower : IsAscii c.toLower ↔ IsAscii c := by
  by_cases upper : c.isUpper = true
  · have low : c.toNat < 91 := by
      simp only [Char.isUpper, decide_eq_true_eq] at upper
      exact Nat.lt_succ_of_le (UInt32.le_iff_toNat_le.mp upper.2)
    have valid : (c.toNat + 32).isValidChar := .inl (by omega)
    have moved : c.toLower.toNat = c.toNat + 32 := by
      rw [Char.toLower_eq_of_isUpper upper, Char.toNat_ofNat, if_pos valid]
    rw [IsAscii, IsAscii, moved]
    exact iff_of_true (by omega) (by omega)
  · rw [Char.toLower_eq_of_not_isUpper upper]

theorem isAscii_of_toLower (same : c.toLower = l.toLower) (ascii : IsAscii l) : IsAscii c :=
  isAscii_toLower.mp (same ▸ isAscii_toLower.mpr ascii)

theorem isAscii_of_sameName (same : sameName s name = true) (ascii : ∀ l ∈ name.toList, IsAscii l) :
    ∀ c ∈ s.toList, IsAscii c := by
  intro c member
  have lowered := congrArg String.toList (sameName_iff.mp same)
  simp only [lowerAscii, String.toList_ofList] at lowered
  have member := List.mem_map_of_mem (f := Char.toLower) member
  obtain ⟨l, there, same⟩ := List.mem_map.mp (lowered ▸ member)
  exact isAscii_of_toLower same.symm (ascii l there)

theorem StandsFor.isAscii (h : StandsFor cs ls) (ascii : ∀ l ∈ ls, IsAscii l) :
    ∀ c ∈ cs, IsAscii c ∨ c ∈ standIns.map (·.1) := by
  induction h with
  | done => exact nofun
  | letter same rest ih =>
    obtain ⟨first, ascii⟩ := List.forall_mem_cons.mp ascii
    exact List.forall_mem_cons.mpr ⟨.inl (isAscii_of_toLower same first), ih ascii⟩
  | standIn known rest ih =>
    refine List.forall_mem_cons.mpr ⟨.inr (List.mem_map_of_mem known), ih fun l member => ?_⟩
    exact ascii l (List.mem_append_right _ member)

end Ascii

section Capitals

theorem capital_cases (c : Char) :
    capital c = [c.toUpper] ∨ (c, capital c) ∈ asciiCapitals := by
  cases found : asciiCapitals.lookup c with
  | none => exact .inl (by rw [capital, found, Option.getD_none])
  | some letters =>
    obtain ⟨before, after, split, -⟩ := List.lookup_eq_some_iff.mp found
    rw [capital, found, Option.getD_some, split]
    exact .inr (List.mem_append_right _ List.mem_cons_self)

theorem capital_of_toLower (ascii : IsAscii l) (upper : l.toUpper = l)
    (same : c.toLower = l.toLower) : capital c = [l] := by
  have beyond : ∀ e ∈ asciiCapitals, ¬ IsAscii e.1 := by decide
  rcases capital_cases c with plain | special
  · rw [plain, ← Char.toUpper_toLower_eq_toUpper, same, Char.toUpper_toLower_eq_toUpper, upper]
  · exact absurd (isAscii_of_toLower same ascii) (beyond _ special)

theorem InCapitals.tail (letters : List Char) (h : InCapitals (letters ++ ls)) : InCapitals ls :=
  ⟨fun l member => h.letters l (List.mem_append_right _ member),
    fun e special inside => h.known e special (inside.trans (List.suffix_append ..).isInfix)⟩

theorem flatMap_capital_iff (h : InCapitals ls) : cs.flatMap capital = ls ↔ StandsFor cs ls := by
  constructor
  · intro written
    induction cs generalizing ls with
    | nil =>
      subst written
      exact .done
    | cons c cs ih =>
      rw [List.flatMap_cons] at written
      subst written
      -- a character has one capital of its own, or it is one of the table
      rcases capital_cases c with plain | special
      · rw [plain] at h ⊢
        exact .letter (Char.toLower_toUpper_eq_toLower c).symm (ih (h.tail _) rfl)
      · exact .standIn (h.known _ special (List.prefix_append ..).isInfix) (ih (h.tail _) rfl)
  · intro spelled
    induction spelled with
    | done => rfl
    | @letter c l cs ls same rest ih =>
      obtain ⟨ascii, upper⟩ := h.letters l List.mem_cons_self
      rw [List.flatMap_cons, ih (h.tail [l]), capital_of_toLower ascii upper same,
        List.singleton_append]
    | standIn known rest ih =>
      have capitals : ∀ e ∈ standIns, capital e.1 = e.2 := by decide
      rw [List.flatMap_cons, ih (h.tail _), capitals _ known]

theorem capitals_eq_iff (h : InCapitals name.toList) :
    capitals s = name ↔ StandsFor s.toList name.toList := by
  rw [← String.toList_inj, capitals, String.toList_ofList, flatMap_capital_iff h]

end Capitals

section Smalls

theorem small_eq_iff (ascii : IsAscii l) (lower : l.toLower = l) (other : l ≠ 'k') :
    small c = l ↔ c.toLower = l.toLower := by
  rw [small, lower]
  split
  · rename_i kelvin
    have beyond : ¬ IsAscii ('\u212A').toLower := by decide
    rw [kelvin]
    exact iff_of_false (Ne.symm other) fun same => beyond (same ▸ ascii)
  · rfl

theorem map_small_iff (h : InSmalls ls) :
    cs.map small = ls ↔ cs.map Char.toLower = ls.map Char.toLower := by
  induction cs generalizing ls with
  | nil => cases ls <;> simp
  | cons c cs ih =>
    cases ls with
    | nil => simp
    | cons l ls =>
      obtain ⟨⟨ascii, lower, other⟩, rest⟩ := List.forall_mem_cons.mp h
      rw [List.map_cons, List.map_cons, List.map_cons, List.cons.injEq, List.cons.injEq,
        small_eq_iff ascii lower other, ih rest]

theorem smalls_eq_iff (h : InSmalls name.toList) : smalls s = name ↔ sameName s name = true := by
  rw [sameName_iff, smalls, lowerAscii, lowerAscii, ← String.toList_inj, ← String.toList_inj,
    String.toList_ofList, String.toList_ofList, String.toList_ofList, map_small_iff h]

end Smalls

theorem isBlank_or_mem_trim (member : c ∈ s.toList) :
    isBlank c = true ∨ c ∈ (trim s).toList := by
  obtain ⟨left, right, before, after, split⟩ := trimChars_split s.toList
  rw [split] at member
  rw [trim, String.toList_ofList]
  rcases List.mem_append.mp member with member | member
  · exact .inl (before c member)
  · rcases List.mem_append.mp member with member | member
    · exact .inr member
    · exact .inl (after c member)

end Text

structure ReadsNames {α : Type} (kind : String) (spells : String → String → Prop)
    (others : List Char) (name : α → String) (read : String → Except UnknownVariant α) : Prop where
  accepts : ∀ s a, read s = .ok a ↔ spells (Text.trim s) (name a)
  refuses : ∀ s u, read s = .error u ↔ u = ⟨kind, s⟩ ∧ ∀ a, ¬ spells (Text.trim s) (name a)
  ascii : ∀ s a, read s = .ok a →
    ∀ c ∈ s.toList, Text.IsAscii c ∨ Text.isBlank c = true ∨ c ∈ others

section Reader

variable {α : Type} {kind : String} {letters : LetterCase} {names : List (String × α)}
  {name : α → String} {spells : String → String → Prop} {others : List Char} {key : α → String}

theorem readName_eq_ok (known : ∀ a, names.lookup (key a) = some a)
    (listed : ∀ e ∈ names, e.1 = key e.2) {s : String} {a : α} :
    readName kind letters names s = .ok a ↔ letters.fold (Text.trim s) = key a := by
  rw [readName]
  cases found : names.lookup (letters.fold (Text.trim s)) with
  | none =>
    refine iff_of_false nofun fun same => ?_
    rw [same, known] at found
    cases found
  | some b =>
    obtain ⟨before, after, split, -⟩ := List.lookup_eq_some_iff.mp found
    have spelled : letters.fold (Text.trim s) = key b :=
      listed (_, b) (split ▸ List.mem_append_right _ List.mem_cons_self)
    change Except.ok b = Except.ok a ↔ _
    rw [spelled, Except.ok.injEq]
    refine ⟨congrArg key, fun same => Option.some.inj ?_⟩
    rw [← known, ← known, same]

theorem readName_eq_error {s : String} {u : UnknownVariant} :
    readName kind letters names s = .error u ↔
      u = ⟨kind, s⟩ ∧ ∀ a, readName kind letters names s ≠ .ok a := by
  rw [readName]
  split
  · exact iff_of_false nofun fun h => h.2 _ rfl
  · simp [eq_comm]

theorem readsNames_of_spells (known : ∀ a, names.lookup (key a) = some a)
    (listed : ∀ e ∈ names, e.1 = key e.2)
    (spelled : ∀ s a, letters.fold s = key a ↔ spells s (name a))
    (ascii : ∀ s a, spells s (name a) → ∀ c ∈ s.toList, Text.IsAscii c ∨ c ∈ others) :
    ReadsNames kind spells others name (readName kind letters names) := by
  have accepts : ∀ s a, readName kind letters names s = .ok a ↔ spells (Text.trim s) (name a) :=
    fun s a => (readName_eq_ok known listed).trans (spelled _ a)
  refine ⟨accepts, fun s u => ?_, fun s a read c member => ?_⟩
  · simp only [readName_eq_error, ne_eq, accepts]
  · rcases Text.isBlank_or_mem_trim member with blank | inside
    · exact .inr (.inl blank)
    · exact (ascii _ a ((accepts s a).mp read) c inside).imp_right .inr

theorem readsNames_capitals (names : List (String × α))
    (known : ∀ a, names.lookup (name a) = some a)
    (listed : ∀ e ∈ names, e.1 = name e.2) (capital : ∀ a, Text.InCapitals (name a).toList) :
    ReadsNames kind (fun s name => Text.StandsFor s.toList name.toList)
      (Text.standIns.map (·.1)) name (readName kind .upper names) :=
  readsNames_of_spells known listed (fun _ a => Text.capitals_eq_iff (capital a))
    fun _ a stands => stands.isAscii fun l member => ((capital a).letters l member).1

theorem readsNames_smalls (names : List (String × α)) (key : α → String)
    (known : ∀ a, names.lookup (key a) = some a)
    (listed : ∀ e ∈ names, e.1 = key e.2) (small : ∀ a, Text.InSmalls (key a).toList)
    (same : ∀ a, Text.sameName (key a) (name a) = true) :
    ReadsNames kind (fun s name => Text.sameName s name = true) [] name
      (readName kind .lower names) := by
  have either (s : String) (a : α) :
      Text.sameName s (key a) = true ↔ Text.sameName s (name a) = true :=
    ⟨fun h => Text.sameName_trans h (same a),
      fun h => Text.sameName_trans h (Text.sameName_symm (same a))⟩
  refine readsNames_of_spells known listed
    (fun s a => (Text.smalls_eq_iff (small a)).trans (either s a)) fun s a spells c member => ?_
  exact .inl (Text.isAscii_of_sameName ((either s a).mpr spells)
    (fun l member => (small a l member).1) c member)

end Reader

/-- A method or a body type is read from its name in any letters, with a long or a dotless letter
or a ligature for the capitals that these have; a library or a type of trust store is read from its
name in any ASCII letters. Blanks around a name do not count, and any other text is reported as it
was given. -/
theorem readsNames_all :
    ReadsNames "http method" (fun s name => Text.StandsFor s.toList name.toList)
      ['ı', 'ſ', 'ﬅ', 'ﬆ'] Method.name Method.read ∧
    ReadsNames "body type" (fun s name => Text.StandsFor s.toList name.toList)
      ['ı', 'ſ', 'ﬅ', 'ﬆ'] BodyType.name BodyType.read ∧
    ReadsNames "http client implementation" (fun s name => Text.sameName s name = true) []
      Implementation.name Implementation.read ∧
    ReadsNames "trust store type" (fun s name => Text.sameName s name = true) []
      TrustStoreType.name TrustStoreType.read := by
  refine ⟨?_, ?_, ?_, ?_⟩
  · refine readsNames_capitals Method.names (fun m => ?_) (by decide) fun m => ?_
    · cases m <;> decide
    · cases m <;> decide
  · refine readsNames_capitals BodyType.names (fun t => ?_) (by decide) fun t => ?_
    · cases t <;> decide
    · cases t <;> decide
  · refine readsNames_smalls Implementation.names Implementation.name (fun i => ?_) (by decide)
      (fun i => ?_) fun i => Text.sameName_refl _
    · cases i <;> decide
    · cases i <;> decide
  · refine readsNames_smalls TrustStoreType.names (Text.lowerAscii ·.name) (fun t => ?_) (by decide)
      (fun t => ?_) fun t => (Text.sameName_lowerAscii ..).trans (Text.sameName_refl t.name)
    · cases t <;> decide
    · cases t <;> decide

/-- A long letter is no ASCII letter, and yet the name of a method may have it. -/
theorem read_long_letter : Method.read "poſt" = .ok .post ∧ 'ſ' ∈ "poſt".toList ∧
    ¬ Text.IsAscii 'ſ' ∧ ∀ m : Method, Text.sameName (Text.trim "poſt") m.name = false := by
  refine ⟨by decide, by decide, by decide, fun m => ?_⟩
  cases m <;> decide

end HttpBridge
