import HttpBridge.Config.Predicate

namespace HttpBridge

namespace Headers

variable {h : Headers} {name : String} {e : String × List String}

def Spells (h : Headers) (name : String) (e : String × List String) : Prop :=
  e ∈ h.entries ∧ Text.sameName e.1 name = true

def Leads (h : Headers) (name : String) (e : String × List String) : Prop :=
  h.Spells name e ∧ ∀ e', h.Spells name e' → e.1 ≤ e'.1

theorem find?_eq_some_iff :
    (h.entries.find? fun e => Text.sameName e.1 name) = some e ↔ h.Leads name e := by
  have ascending := h.ascending
  rw [List.find?_eq_some_iff_append]
  constructor
  · rintro ⟨same, before, after, split, skipped⟩
    refine ⟨⟨split ▸ List.mem_append_right _ List.mem_cons_self, same⟩, ?_⟩
    rintro e' ⟨member, same'⟩
    rw [split] at member ascending
    rcases List.mem_append.mp member with earlier | member
    · simpa [same'] using skipped e' earlier
    · rcases List.mem_cons.mp member with rfl | later
      · exact String.le_refl _
      · have tail := (List.pairwise_append.mp ascending).2.1
        exact String.not_lt.mp (String.lt_asymm ((List.pairwise_cons.mp tail).1 e' later))
  · rintro ⟨⟨member, same⟩, least⟩
    obtain ⟨before, after, split⟩ := List.append_of_mem member
    refine ⟨same, before, after, split, fun e' earlier => ?_⟩
    rw [split] at ascending
    have less : e'.1 < e.1 :=
      (List.pairwise_append.mp ascending).2.2 e' earlier e List.mem_cons_self
    have other : Text.sameName e'.1 name ≠ true := fun same' =>
      String.not_lt.mpr (least e' ⟨split ▸ List.mem_append_left _ earlier, same'⟩) less
    simp [other]

theorem lookup_eq_some {values : List String} :
    h.lookup name = some values ↔ ∃ e, h.Leads name e ∧ e.2 = values := by
  simp only [lookup, Option.map_eq_some_iff, find?_eq_some_iff]

theorem exists_leads (there : h.Spells name e) : ∃ e', h.Leads name e' := by
  have found : (h.entries.find? fun e => Text.sameName e.1 name).isSome = true :=
    List.find?_isSome.mpr ⟨e, there⟩
  obtain ⟨e', found⟩ := Option.isSome_iff_exists.mp found
  exact ⟨e', find?_eq_some_iff.mp found⟩

end Headers

namespace RequestPredicate

variable {p : RequestPredicate} {r : Request}

/-- Says that all conditions that are set hold for a request. The condition on a header asks for an
entry that counts for its name, and the condition on a value for a value of such an entry. -/
structure Holds (p : RequestPredicate) (r : Request)
    (counts : String → String × List String → Prop) : Prop where
  url : ∀ pattern, p.url = some pattern → pattern.isMatch r.url = true
  method : ∀ m, p.method = some m → r.method = m
  bodyType : ∀ t, p.bodyType = some t → r.bodyType = t
  header : ∀ key, p.headerKey = some key → ∃ e, counts key e
  value : ∀ key pattern, p.headerKey = some key → p.headerValue = some pattern →
    ∃ e, counts key e ∧ ∃ value ∈ e.2, pattern.isMatch value = true

theorem headerMatches_iff {key : String} : p.headerMatches r key = true ↔
    (∃ e, r.headers.Leads key e) ∧ ∀ pattern, p.headerValue = some pattern →
      ∃ e, r.headers.Leads key e ∧ ∃ value ∈ e.2, pattern.isMatch value = true := by
  unfold headerMatches
  cases found : r.headerValues key with
  | none =>
    have missing : ¬ ∃ e, r.headers.Leads key e := by
      rintro ⟨e, leads⟩
      have found' := Headers.lookup_eq_some.mpr ⟨e, leads, rfl⟩
      rw [← Request.headerValues, found] at found'
      cases found'
    simp [missing]
  | some values =>
    obtain ⟨e, leads, rfl⟩ := Headers.lookup_eq_some.mp found
    have only : ∀ e', r.headers.Leads key e' ↔ e' = e := by
      intro e'
      rw [← Headers.find?_eq_some_iff, Headers.find?_eq_some_iff.mpr leads, Option.some.injEq]
      exact eq_comm
    cases p.headerValue with
    | none => simp [only]
    | some pattern => simp [only]

theorem isMatch_iff : p.isMatch r = true ↔ p.Holds r r.headers.Leads := by
  unfold isMatch
  simp only [Bool.and_eq_true, Option.all_eq_true, beq_iff_eq, headerMatches_iff]
  constructor
  · rintro ⟨⟨⟨url, method⟩, bodyType⟩, header⟩
    exact ⟨url, fun m set => (method m set).symm, fun t set => (bodyType t set).symm,
      fun key set => (header key set).1, fun key pattern set => (header key set).2 pattern⟩
  · intro holds
    exact ⟨⟨⟨holds.url, fun m set => (holds.method m set).symm⟩,
      fun t set => (holds.bodyType t set).symm⟩,
      fun key set => ⟨holds.header key set, fun pattern => holds.value key pattern set⟩⟩

theorem Holds.mono {counts counts' : String → String × List String → Prop} (h : p.Holds r counts)
    (more : ∀ key, p.headerKey = some key → ∀ e, counts key e → counts' key e) :
    p.Holds r counts' where
  url := h.url
  method := h.method
  bodyType := h.bodyType
  header key set := (h.header key set).imp fun e => more key set e
  value key pattern set set' := (h.value key pattern set set').imp fun e =>
    .imp_left (more key set e)

/-- A request is matched if all conditions that are set hold for it, where the values that count
are those of the first spelling of a header in order. So it is matched only if all conditions hold
with any spelling; and it is matched just then if no value is asked for, or if the header is there
in one spelling. -/
theorem isMatch_iff_holds (p : RequestPredicate) (r : Request) :
    (p.isMatch r = true ↔ p.Holds r r.headers.Leads) ∧
    (p.isMatch r = true → p.Holds r r.headers.Spells) ∧
    (p.headerValue = none → (p.isMatch r = true ↔ p.Holds r r.headers.Spells)) ∧
    ((∀ key, p.headerKey = some key → ∀ e e', r.headers.Spells key e → r.headers.Spells key e' →
        e.1 = e'.1) →
      (p.isMatch r = true ↔ p.Holds r r.headers.Spells)) := by
  have leading : p.Holds r r.headers.Leads → p.Holds r r.headers.Spells :=
    fun holds => holds.mono fun _ _ _ leads => leads.1
  rw [isMatch_iff]
  refine ⟨.rfl, leading, fun valueless => ⟨leading, fun holds => ?_⟩, fun single =>
    ⟨leading, fun holds => holds.mono fun key set e spells => ⟨spells, fun e' spells' => ?_⟩⟩⟩
  · exact { holds with
      header := fun key set => (holds.header key set).elim fun e => Headers.exists_leads
      value := fun key pattern set set' => absurd (valueless ▸ set') nofun }
  · exact single key set e e' spells spells' ▸ String.le_refl _

def tenant : RequestPredicate :=
  any.withHeader "x-tenant" (some (.known "^acme$" rfl))

def twoTenants : Request :=
  ((Request.get "http://a").withHeader "X-Tenant" "other").withHeader "x-tenant" "acme"

/-- A value under a later spelling is not heard, though every condition holds with it. -/
theorem isMatch_later_spelling :
    tenant.Holds twoTenants twoTenants.headers.Spells ∧ tenant.isMatch twoTenants = false := by
  have spells : twoTenants.headers.Spells "x-tenant" ("x-tenant", ["acme"]) :=
    ⟨by decide +kernel, by decide +kernel⟩
  refine ⟨⟨nofun, nofun, nofun, ?_, ?_⟩, by decide +kernel⟩
  · rintro _ ⟨⟩
    exact ⟨_, spells⟩
  · rintro _ _ ⟨⟩ ⟨⟩
    exact ⟨_, spells, "acme", List.mem_cons_self, by decide +kernel⟩

end RequestPredicate

end HttpBridge
