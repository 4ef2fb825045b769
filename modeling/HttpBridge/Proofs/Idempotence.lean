import HttpBridge.Proofs.Enrichment
import HttpBridge.Proofs.Slices

namespace HttpBridge

theorem Request.hasHeader_iff_find? {r : Request} {name : String} : r.hasHeader name = true ↔
    ∃ key, Text.sameName key name = true ∧ (r.headers.find? key).isSome = true := by
  rw [hasHeader_iff]
  constructor
  · rintro ⟨e, spells⟩
    exact ⟨e.1, spells.2, Option.isSome_of_eq_some spells.find?⟩
  · rintro ⟨key, same, there⟩
    obtain ⟨values, found⟩ := Option.isSome_iff_exists.mp there
    exact ⟨(key, values), Dict.mem_iff_find?.mpr found, same⟩

structure Request.SameButHeaders (r r' : Request) : Prop where
  url : r'.url = r.url
  method : r'.method = r.method
  body : r'.body = r.body

namespace Request.SameButHeaders

variable {r r' r'' : Request}

theorem refl (r : Request) : r.SameButHeaders r := ⟨rfl, rfl, rfl⟩

theorem trans (h : r.SameButHeaders r') (h' : r'.SameButHeaders r'') : r.SameButHeaders r'' :=
  ⟨h'.url.trans h.url, h'.method.trans h.method, h'.body.trans h.body⟩

theorem eq_of_find? (h : r.SameButHeaders r')
    (same : ∀ name, r'.headers.find? name = r.headers.find? name) : r' = r := by
  obtain ⟨url, method, body⟩ := h
  have headers := Dict.ext_find? same
  cases r
  cases r'
  cases url
  cases method
  cases body
  cases headers
  rfl

end Request.SameButHeaders

namespace Sink

variable {σ : Type} {w : World σ} {s : SinkSettings} {r : Request} {st : σ} {name id : String}
  {wanted : Bool} {headers : List (String × String)}

section Setting

theorem setHeaders_sameButHeaders (r : Request) (headers : List (String × String)) :
    r.SameButHeaders (headers.foldl setHeader r) := by
  induction headers generalizing r with
  | nil => exact .refl r
  | cons h headers ih =>
    have first : r.SameButHeaders (setHeader r h) := ⟨rfl, rfl, rfl⟩
    exact first.trans (ih _)

theorem find?_setHeaders : (headers.foldl setHeader r).headers.find? name =
    ((headers.reverse.lookup name).map fun value => [value]).or (r.headers.find? name) := by
  induction headers generalizing r with
  | nil => rfl
  | cons h headers ih =>
    obtain ⟨key, value⟩ := h
    rw [List.foldl_cons, ih, List.reverse_cons, List.lookup_append]
    cases headers.reverse.lookup name with
    | some value => rfl
    | none =>
      change (r.headers.insert key [value]).find? name = _
      by_cases same : name = key
      · rw [same, Dict.find?_insert]
        simp
      · rw [Dict.find?_insert_of_ne _ _ same, List.lookup_cons, beq_false_of_ne same]
        rfl

theorem setHeaders_eq_self (set : ∀ name value, headers.reverse.lookup name = some value →
    r.headers.find? name = some [value]) : headers.foldl setHeader r = r := by
  refine (setHeaders_sameButHeaders r headers).eq_of_find? fun name => ?_
  rw [find?_setHeaders]
  cases found : headers.reverse.lookup name with
  | none => rfl
  | some value => exact (set name value found).symm

theorem lookup_reverse_eq_none :
    headers.reverse.lookup name = none ↔ name ∉ headers.map (·.1) := by
  rw [List.lookup_eq_none_iff]
  simp only [List.mem_reverse, bne_iff_ne, List.mem_map, not_exists, not_and]
  exact forall₂_congr fun h _ => ne_comm

theorem isSome_lookup_reverse :
    (headers.reverse.lookup name).isSome = true ↔ name ∈ headers.map (·.1) := by
  rw [← not_iff_not, ← lookup_reverse_eq_none, Bool.not_eq_true, Option.isSome_eq_false_iff,
    Option.isNone_iff_eq_none]

theorem hasHeader_setHeaders : (headers.foldl setHeader r).hasHeader name = true ↔
    (∃ h ∈ headers, Text.sameName h.1 name = true) ∨ r.hasHeader name = true := by
  have there (key : String) : ((headers.foldl setHeader r).headers.find? key).isSome = true ↔
      key ∈ headers.map (·.1) ∨ (r.headers.find? key).isSome = true := by
    rw [find?_setHeaders, Option.isSome_or, Option.isSome_map, Bool.or_eq_true,
      isSome_lookup_reverse]
  rw [Request.hasHeader_iff_find?, Request.hasHeader_iff_find?]
  simp only [there]
  constructor
  · rintro ⟨key, same, listed | old⟩
    · obtain ⟨h, member, rfl⟩ := List.mem_map.mp listed
      exact .inl ⟨h, member, same⟩
    · exact .inr ⟨key, same, old⟩
  · rintro (⟨h, member, same⟩ | ⟨key, same, old⟩)
    · exact ⟨h.1, same, .inl (List.mem_map_of_mem member)⟩
    · exact ⟨key, same, .inr old⟩

end Setting

section Adding

theorem addIdentifier_sameButHeaders (w : World σ) (wanted : Bool) (name : String) (r : Request)
    (st : σ) : r.SameButHeaders (addIdentifier w wanted name r st).1 := by
  unfold addIdentifier
  split
  · exact ⟨rfl, rfl, rfl⟩
  · exact .refl r

theorem addIdentifier_eq_self (there : wanted = true → r.hasHeader name = true) :
    addIdentifier w wanted name r st = (r, st) := by
  unfold addIdentifier
  refine if_neg fun missing => ?_
  obtain ⟨asked, absent⟩ := Bool.and_eq_true_iff.mp missing
  rw [there asked] at absent
  cases absent

theorem find?_addIdentifier_of_some {values : List String}
    (there : r.headers.find? name = some values) :
    (addIdentifier w wanted id r st).1.headers.find? name = some values := by
  have member : (name, values) ∈ r.headers.entries := Dict.mem_iff_find?.mpr there
  exact Dict.mem_iff_find?.mp (mem_addIdentifier.mpr (.inl member))

theorem find?_addIdentifier :
    (addIdentifier w wanted id r st).1.headers.find? name = r.headers.find? name ∨
      wanted = true ∧ r.hasHeader id = false ∧ name = id ∧
        (addIdentifier w wanted id r st).1.headers.find? name = some [(w.identifier st).1] := by
  by_cases adds : (wanted = true ∧ r.hasHeader id = false) ∧ name = id
  · obtain ⟨⟨asked, absent⟩, rfl⟩ := adds
    refine .inr ⟨asked, absent, rfl, ?_⟩
    exact Headers.Spells.find? ⟨mem_addIdentifier.mpr (.inr ⟨⟨asked, absent⟩, rfl⟩),
      Text.sameName_refl name⟩
  · refine .inl (Option.ext fun values => ?_)
    rw [← Dict.mem_iff_find? (e := (name, values)), ← Dict.mem_iff_find? (e := (name, values)),
      mem_addIdentifier, or_iff_left]
    rintro ⟨missing, same⟩
    exact adds ⟨missing, congrArg Prod.fst same⟩

theorem hasHeader_addIdentifier (there : r.hasHeader name = true) :
    (addIdentifier w wanted id r st).1.hasHeader name = true := by
  obtain ⟨e, spells⟩ := Request.hasHeader_iff.mp there
  exact Request.hasHeader_iff.mpr ⟨e, mem_addIdentifier.mpr (.inl spells.1), spells.2⟩

theorem hasHeader_addIdentifier_self (asked : wanted = true) :
    (addIdentifier w wanted id r st).1.hasHeader id = true := by
  cases absent : r.hasHeader id with
  | true => exact hasHeader_addIdentifier absent
  | false =>
    exact Request.hasHeader_iff.mpr ⟨_, mem_addIdentifier.mpr (.inr ⟨⟨asked, absent⟩, rfl⟩),
      Text.sameName_refl id⟩

end Adding

def identifiers (s : SinkSettings) : List (Bool × String) :=
  [(s.generatesRequestId, requestIdHeader), (s.generatesCorrelationId, correlationIdHeader)]

theorem mem_identifiers : (true, id) ∈ identifiers s ↔
    s.generatesRequestId = true ∧ id = requestIdHeader ∨
      s.generatesCorrelationId = true ∧ id = correlationIdHeader := by
  rw [identifiers, List.mem_cons, List.mem_singleton, Prod.mk.injEq, Prod.mk.injEq]
  exact or_congr (and_congr_left' eq_comm) (and_congr_left' eq_comm)

def Lacks (s : SinkSettings) (r : Request) (name : String) : Prop :=
  (∀ h ∈ s.staticHeaders, Text.sameName h.1 name = false) ∧ ¬∃ e, r.headers.Spells name e

theorem hasHeader_setHeaders_eq_false :
    (s.staticHeaders.foldl setHeader r).hasHeader name = false ↔ Lacks s r name := by
  rw [← Bool.not_eq_true, hasHeader_setHeaders, not_or, Request.hasHeader_iff, Lacks]
  simp only [not_exists, not_and, Bool.not_eq_true]

theorem find?_enrich_static (w : World σ) (r : Request) (st : σ) {value : String}
    (last : s.staticHeaders.reverse.lookup name = some value) :
    (enrich w s r st).1.headers.find? name = some [value] := by
  refine find?_addIdentifier_of_some (find?_addIdentifier_of_some ?_)
  rw [find?_setHeaders, last]
  rfl

theorem find?_enrich_other (w : World σ) (r : Request) (st : σ)
    (fresh : name ∉ s.staticHeaders.map (·.1)) :
    (enrich w s r st).1.headers.find? name = r.headers.find? name ∨
      (true, name) ∈ identifiers s ∧ Lacks s r name ∧
        ∃ value, (enrich w s r st).1.headers.find? name = some [value] := by
  let given := s.staticHeaders.foldl setHeader r
  let first := addIdentifier w s.generatesRequestId requestIdHeader given st
  have unset : given.headers.find? name = r.headers.find? name := by
    rw [find?_setHeaders, lookup_reverse_eq_none.mpr fresh]
    rfl
  -- the identifiers are added one after the other, so the second is looked at first
  have second : (enrich w s r st).1.headers.find? name = first.1.headers.find? name ∨
      s.generatesCorrelationId = true ∧ first.1.hasHeader correlationIdHeader = false ∧
        name = correlationIdHeader ∧ (enrich w s r st).1.headers.find? name =
          some [(w.identifier first.2).1] := find?_addIdentifier
  rcases second with kept | ⟨asked, absent, named, added⟩
  · have one : first.1.headers.find? name = given.headers.find? name ∨
        s.generatesRequestId = true ∧ given.hasHeader requestIdHeader = false ∧
          name = requestIdHeader ∧ first.1.headers.find? name = some [(w.identifier st).1] :=
      find?_addIdentifier
    rw [kept]
    rcases one with same | ⟨asked, absent, named, added⟩
    · exact .inl (same.trans unset)
    · refine .inr ⟨mem_identifiers.mpr (.inl ⟨asked, named⟩), ?_, _, added⟩
      exact named ▸ hasHeader_setHeaders_eq_false.mp absent
  · -- what the first identifier does not bring was missing before it
    have lacking : given.hasHeader correlationIdHeader = false := by
      by_contra there
      rw [Bool.not_eq_false] at there
      rw [hasHeader_addIdentifier there] at absent
      cases absent
    refine .inr ⟨mem_identifiers.mpr (.inr ⟨asked, named⟩), ?_, _, added⟩
    exact named ▸ hasHeader_setHeaders_eq_false.mp lacking

theorem hasHeader_enrich (w : World σ) (r : Request) (st : σ)
    (asked : (true, id) ∈ identifiers s) :
    (enrich w s r st).1.hasHeader id = true := by
  rcases mem_identifiers.mp asked with ⟨wanted, rfl⟩ | ⟨wanted, rfl⟩
  · exact hasHeader_addIdentifier (hasHeader_addIdentifier_self wanted)
  · exact hasHeader_addIdentifier_self wanted

theorem enrich_sameButHeaders : r.SameButHeaders (enrich w s r st).1 :=
  ((setHeaders_sameButHeaders r s.staticHeaders).trans
    (addIdentifier_sameButHeaders ..)).trans (addIdentifier_sameButHeaders ..)

theorem enrich_eq_self
    (set : ∀ name value, s.staticHeaders.reverse.lookup name = some value →
      r.headers.find? name = some [value])
    (there : ∀ id, (true, id) ∈ identifiers s → r.hasHeader id = true) :
    enrich w s r st = (r, st) := by
  have request : s.generatesRequestId = true → r.hasHeader requestIdHeader = true :=
    fun asked => there _ (mem_identifiers.mpr (.inl ⟨asked, rfl⟩))
  have correlation : s.generatesCorrelationId = true → r.hasHeader correlationIdHeader = true :=
    fun asked => there _ (mem_identifiers.mpr (.inr ⟨asked, rfl⟩))
  unfold enrich
  rw [setHeaders_eq_self set]
  dsimp only
  rw [addIdentifier_eq_self request]
  exact addIdentifier_eq_self correlation

/-- A request that was enriched stays as it is, whichever identifiers there are to draw. Of the
request it was, only the headers differ: those whose names are set have their last value, and of the
others the same are there but for the identifiers that are asked for and that were missing, each of
which has one value. -/
theorem enrich_settled (w : World σ) (s : SinkSettings) (r : Request) (st : σ) :
    (∀ {τ : Type} (w' : World τ) (st' : τ),
        enrich w' s (enrich w s r st).1 st' = ((enrich w s r st).1, st')) ∧
      r.SameButHeaders (enrich w s r st).1 ∧
      (∀ name value, s.staticHeaders.reverse.lookup name = some value →
        (enrich w s r st).1.headers.find? name = some [value]) ∧
      (∀ name, name ∉ s.staticHeaders.map (·.1) → name ∉ [requestIdHeader, correlationIdHeader] →
        (enrich w s r st).1.headers.find? name = r.headers.find? name) ∧
      (∀ id ∈ [requestIdHeader, correlationIdHeader], r.hasHeader id = true →
        ∀ name, Text.sameName name id = true → name ∉ s.staticHeaders.map (·.1) →
          (enrich w s r st).1.headers.find? name = r.headers.find? name) ∧
      ∀ name, name ∉ s.staticHeaders.map (·.1) →
        (enrich w s r st).1.headers.find? name = r.headers.find? name ∨
          (true, name) ∈ identifiers s ∧ Lacks s r name ∧
            ∃ value, (enrich w s r st).1.headers.find? name = some [value] := by
  refine ⟨fun w' st' => ?_, enrich_sameButHeaders, fun name value => find?_enrich_static w r st,
    ?_, ?_, fun name => find?_enrich_other w r st⟩
  · exact enrich_eq_self (fun name value => find?_enrich_static w r st)
      fun id => hasHeader_enrich w r st
  · intro name fresh other
    rcases find?_enrich_other w r st fresh with kept | ⟨listed, -⟩
    · exact kept
    · refine absurd ?_ other
      rcases mem_identifiers.mp listed with ⟨-, rfl⟩ | ⟨-, rfl⟩
      · exact List.mem_cons_self
      · exact List.mem_cons_of_mem _ List.mem_cons_self
  · intro id _ there name same fresh
    rcases find?_enrich_other w r st fresh with kept | ⟨-, ⟨-, lacks⟩, -⟩
    · exact kept
    · obtain ⟨e, spells⟩ := Request.hasHeader_iff.mp there
      exact absurd ⟨e, spells.1, Text.sameName_trans spells.2 (Text.sameName_symm same)⟩ lacks

end Sink

end HttpBridge
