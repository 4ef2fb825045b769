import HttpBridge.Proofs.Sending

namespace HttpBridge

namespace Headers

variable {h : Headers} {name : String}

theorem lookup_congr {other : String} (same : Text.sameName other name = true) :
    h.lookup other = h.lookup name := by
  simp only [lookup, Text.sameName, Text.sameName_iff.mp same]

theorem lookup_eq_none : h.lookup name = none ↔ ¬∃ e, h.Spells name e := by
  rw [lookup, Option.map_eq_none_iff, List.find?_eq_none]
  constructor
  · rintro missing ⟨e, member, same⟩
    exact missing e member same
  · exact fun missing e member same => missing ⟨e, member, same⟩

theorem Leads.unique {e e' : String × List String} (leads : h.Leads name e)
    (leads' : h.Leads name e') : e = e' :=
  leads.1.unique leads'.1 (String.le_antisymm (leads.2 e' leads'.1) (leads'.2 e leads.1))

theorem gathered_eq_append (h : Headers) (name : String) :
    ∃ later, h.gathered name = (h.lookup name).getD [] ++ later := by
  cases found : h.lookup name with
  | none => exact ⟨h.gathered name, rfl⟩
  | some values =>
    obtain ⟨e, leads, rfl⟩ := lookup_eq_some.mp found
    have first : (h.entries.filter fun e => Text.sameName e.1 name).head? = some e :=
      List.head?_filter.trans (find?_eq_some_iff.mpr leads)
    obtain ⟨others, split⟩ := List.head?_eq_some_iff.mp first
    exact ⟨others.flatMap (·.2), by rw [gathered, split, List.flatMap_cons, Option.getD_some]⟩

theorem gathered_eq_lookup_iff : h.gathered name = (h.lookup name).getD [] ↔
    ∀ e, h.Spells name e → ¬h.Leads name e → e.2 = [] := by
  cases found : h.lookup name with
  | none =>
    have missing := lookup_eq_none.mp found
    exact iff_of_true (gathered_eq_nil_of_missing missing) fun e there => absurd ⟨e, there⟩ missing
  | some values =>
    obtain ⟨e, leads, rfl⟩ := lookup_eq_some.mp found
    rw [Option.getD_some, gathered_eq_iff leads.1]
    have other (e' : String × List String) (there : h.Spells name e') :
        e'.1 ≠ e.1 ↔ ¬h.Leads name e' :=
      not_congr ⟨fun same => leads.1.unique there same.symm ▸ leads,
        fun leads' => congrArg Prod.fst (leads'.unique leads)⟩
    exact forall₂_congr fun e' there => imp_congr_left (other e' there)

theorem spells_add {spelling value : String} {e : String × List String}
    (same : Text.sameName spelling name = true) : (h.add spelling value).Spells name e ↔
      e = (spelling, (h.find? spelling).getD [] ++ [value]) ∨ h.Spells name e ∧ e.1 ≠ spelling := by
  unfold Spells add
  rw [Dict.mem_insert]
  constructor
  · rintro ⟨rfl | ⟨member, other⟩, same⟩
    · exact .inl rfl
    · exact .inr ⟨⟨member, same⟩, other⟩
  · rintro (rfl | ⟨⟨member, same⟩, other⟩)
    · exact ⟨.inl rfl, same⟩
    · exact ⟨.inr ⟨member, other⟩, same⟩

theorem lookup_add_first {spelling value : String} (same : Text.sameName spelling name = true)
    (first : ∀ e, h.Spells name e → spelling ≤ e.1) :
    (h.add spelling value).lookup name = some ((h.find? spelling).getD [] ++ [value]) := by
  refine lookup_eq_some.mpr ⟨_, ⟨(spells_add same).mpr (.inl rfl), fun e there => ?_⟩, rfl⟩
  rcases (spells_add same).mp there with rfl | ⟨old, -⟩
  · exact String.le_refl _
  · exact first e old

theorem lookup_add_later {spelling value : String} {e : String × List String}
    (same : Text.sameName spelling name = true) (earlier : h.Spells name e)
    (lower : e.1 < spelling) : (h.add spelling value).lookup name = h.lookup name := by
  obtain ⟨e', old, least⟩ := exists_leads earlier
  have lower' : e'.1 < spelling := String.not_le.mp fun above =>
    String.not_lt.mpr (String.le_trans above (least e earlier)) lower
  rw [lookup_eq_some.mpr ⟨e', ⟨old, least⟩, rfl⟩, lookup_eq_some]
  have kept : (h.add spelling value).Spells name e' :=
    (spells_add same).mpr (.inr ⟨old, String.ne_of_lt lower'⟩)
  refine ⟨e', ⟨kept, fun e'' there => ?_⟩, rfl⟩
  rcases (spells_add same).mp there with rfl | ⟨old', -⟩
  · exact String.not_lt.mp (String.lt_asymm lower')
  · exact least e'' old'

end Headers

namespace Request

/-- All values that a request has under a name are sent, spelling by spelling, while those of the
first spelling are found, whichever spelling is asked for. So what is found is what is sent just if
the other spellings have no values; and a value that is added is found just if no earlier spelling
is there. -/
theorem sends_all_spellings (i : Implementation) (r : Request) (name : String) {boundary : String}
    (drawn : ∀ c ∈ boundary.toList, c.isAlphanum = true) (reads : i.Reads r.url)
    (fine : ∀ h ∈ r.headers.fields, Header.Fine h)
    (anonymous : ∀ u, Url.read r.url = some u → u.Anonymous)
    (own : Text.sameName name contentTypeName = true →
      r.bodyType = .string ∨ r.hasHeader contentTypeName = true) :
    ∃ built, i.build (i.handed boundary r) = some built ∧
      Header.valuesOf name built.headers = r.headers.gathered name ∧
      (∃ later, Header.valuesOf name built.headers = (r.headerValues name).getD [] ++ later) ∧
      (Header.valuesOf name built.headers = (r.headerValues name).getD [] ↔
        ∀ e, r.headers.Spells name e → ¬r.headers.Leads name e → e.2 = []) ∧
      ∀ spelling, Text.sameName spelling name = true →
        r.headerValues spelling = r.headerValues name ∧ ∀ value,
          ((∀ e, r.headers.Spells name e → spelling ≤ e.1) →
            (r.withHeader spelling value).headerValues name =
              some ((r.headers.find? spelling).getD [] ++ [value])) ∧
          ((∃ e, r.headers.Spells name e ∧ e.1 < spelling) →
            (r.withHeader spelling value).headerValues name = r.headerValues name) := by
  obtain ⟨built, builds⟩ := build_handed i r drawn reads fine
  have own : Text.sameName name contentTypeName = true →
      (Payload.ofBody boundary r.body).value.contentType = none ∨
        r.hasHeader contentTypeName = true :=
    fun same => (own same).imp_left Payload.contentType_ofBody_eq_none.mpr
  have sent : Header.valuesOf name built.headers = r.headers.gathered name :=
    (valuesOf_built builds (.inr anonymous)).trans
      (valuesOf_sentHeaders (Implementation.spells_typeName i) own)
  refine ⟨built, builds, sent, ?_, ?_, fun spelling same => ⟨Headers.lookup_congr same,
    fun value => ⟨Headers.lookup_add_first same, ?_⟩⟩⟩
  · rw [sent]
    exact Headers.gathered_eq_append ..
  · rw [sent]
    exact Headers.gathered_eq_lookup_iff
  · rintro ⟨e, earlier, lower⟩
    exact Headers.lookup_add_later same earlier lower

def oneSpelling : Request :=
  ((Request.get "http://a").withHeader "X-A" "1").withHeader "X-A" "2"

theorem sends_all_spellings_one : ∃ built,
    Implementation.build .lenient (Implementation.handed .lenient "b" oneSpelling) = some built ∧
      Header.valuesOf "x-a" built.headers = ["1", "2"] ∧
      oneSpelling.headerValues "x-a" = some ["1", "2"] := by
  have drawn : ∀ c ∈ "b".toList, c.isAlphanum = true := List.all_eq_true.mp (by decide)
  have nobody : (Url.read "http://a").all (·.authority.all fun a =>
      a.user.isEmpty && a.password.isEmpty) = true := by decide +kernel
  have anonymous (u : Url) (read : Url.read "http://a" = some u) : u.Anonymous := by
    intro a authority
    rw [read, Option.all_some, authority, Option.all_some] at nobody
    simpa using nobody
  have found : oneSpelling.headerValues "x-a" = some ["1", "2"] := by decide +kernel
  obtain ⟨built, builds, -, -, agrees, -⟩ := sends_all_spellings .lenient oneSpelling "x-a" drawn
    (reads_plain .lenient) (by decide +kernel) anonymous fun same => absurd same (by decide)
  have only (e e' : String × List String) (there : oneSpelling.headers.Spells "x-a" e)
      (there' : oneSpelling.headers.Spells "x-a" e') : e.1 ≤ e'.1 := by
    have entries : oneSpelling.headers.entries = [("X-A", ["1", "2"])] := rfl
    rw [Headers.Spells, entries, List.mem_singleton] at there there'
    obtain ⟨rfl, -⟩ := there
    obtain ⟨rfl, -⟩ := there'
    exact String.le_refl _
  rw [found] at agrees
  refine ⟨built, builds, agrees.mpr fun e there later => ?_, found⟩
  exact absurd ⟨there, fun e' => only e e' there⟩ later

def twoSpellings : Request :=
  ((Request.get "http://a").withHeader "X-A" "1").withHeader "x-a" "2"

/-- The value that was added under the second spelling is sent, but not found. -/
theorem sends_all_spellings_two :
    twoSpellings.headerValues "x-a" = some ["1"] ∧
      (Implementation.build .lenient (Implementation.handed .lenient "b" twoSpellings)).map
        (fun built => Header.valuesOf "x-a" built.headers) = some ["1", "2"] :=
  ⟨by decide +kernel, by decide +kernel⟩

end Request

end HttpBridge
