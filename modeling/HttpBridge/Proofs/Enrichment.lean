import HttpBridge.Connect.Sink
import HttpBridge.Proofs.Retry
import HttpBridge.Proofs.Routing

namespace HttpBridge

namespace Headers

variable {h : Headers} {name : String} {e : String × List String}

/-- Gives the values under all spellings of a name. -/
def gathered (h : Headers) (name : String) : List String :=
  (h.entries.filter fun e => Text.sameName e.1 name).flatMap (·.2)

theorem Spells.find? (there : h.Spells name e) : h.find? e.1 = some e.2 :=
  Dict.mem_iff_find?.mp there.1

theorem Spells.unique {e' : String × List String} (there : h.Spells name e)
    (there' : h.Spells name e') (same : e.1 = e'.1) : e = e' := by
  have found := there.find?
  rw [same, there'.find?] at found
  exact Prod.ext same (Option.some.inj found).symm

theorem gathered_eq_iff (there : h.Spells name e) :
    h.gathered name = e.2 ↔ ∀ e', h.Spells name e' → e'.1 ≠ e.1 → e'.2 = [] := by
  have listed : e ∈ h.entries.filter fun e => Text.sameName e.1 name :=
    List.mem_filter.mpr there
  -- names ascend, so those around the entry are other spellings than its own
  obtain ⟨before, after, split⟩ := List.append_of_mem listed
  have ascending := h.ascending.filter fun e => Text.sameName e.1 name
  rw [split, List.pairwise_append, List.pairwise_cons] at ascending
  obtain ⟨-, ⟨above, -⟩, below⟩ := ascending
  have others (e' : String × List String) :
      h.Spells name e' ∧ e'.1 ≠ e.1 ↔ e' ∈ before ∨ e' ∈ after := by
    have spells : h.Spells name e' ↔ e' ∈ before ∨ e' = e ∨ e' ∈ after := by
      rw [← List.mem_cons, ← List.mem_append, ← split, List.mem_filter]
      rfl
    rw [spells]
    constructor
    · rintro ⟨earlier | rfl | later, other⟩
      · exact .inl earlier
      · exact absurd rfl other
      · exact .inr later
    · rintro (earlier | later)
      · exact ⟨.inl earlier, String.ne_of_lt (below e' earlier e List.mem_cons_self)⟩
      · exact ⟨.inr (.inr later), (String.ne_of_lt (above e' later)).symm⟩
  have only : h.gathered name = e.2 ↔
      before.flatMap (·.2) = [] ∧ after.flatMap (·.2) = [] := by
    rw [gathered, split, List.flatMap_append, List.flatMap_cons]
    constructor
    · intro same
      -- the whole is no longer than its middle part, so nothing is around it
      have length := congrArg List.length same
      simp only [List.length_append] at length
      exact ⟨List.length_eq_zero_iff.mp (by omega), List.length_eq_zero_iff.mp (by omega)⟩
    · rintro ⟨none, none'⟩
      rw [none, none', List.nil_append, List.append_nil]
  rw [only, List.flatMap_eq_nil_iff, List.flatMap_eq_nil_iff]
  constructor
  · rintro ⟨none, none'⟩ e' there' other
    exact ((others e').mp ⟨there', other⟩).elim (none e') (none' e')
  · intro none
    have empty (e' : String × List String) (listed : e' ∈ before ∨ e' ∈ after) : e'.2 = [] :=
      none e' ((others e').mpr listed).1 ((others e').mpr listed).2
    exact ⟨fun e' earlier => empty e' (.inl earlier), fun e' later => empty e' (.inr later)⟩

theorem lookup_eq_some_of_beside {h' : Headers} {values : List String}
    (beside : ∀ e, h'.Spells name e ↔ e = (name, values) ∨ h.Spells name e ∧ e.1 ≠ name) :
    h'.lookup name = some values ↔ ∀ e, h.Leads name e → e.1 < name → e.2 = values := by
  rw [lookup_eq_some]
  constructor
  · rintro ⟨e, ⟨there, least⟩, rfl⟩ e' ⟨there', least'⟩ lower
    have kept : h'.Spells name e' := (beside e').mpr (.inr ⟨there', String.ne_of_lt lower⟩)
    rcases (beside e).mp there with same | ⟨old, -⟩
    · rw [same] at least
      exact absurd lower (String.not_lt.mpr (least e' kept))
    · rw [old.unique there' (String.le_antisymm (least e' kept) (least' e old))]
  · intro leading
    obtain ⟨e, there, least⟩ := exists_leads ((beside _).mpr (.inl rfl))
    refine ⟨e, ⟨there, least⟩, ?_⟩
    rcases (beside e).mp there with rfl | ⟨old, other⟩
    · rfl
    · -- another spelling that is found has to come before, so it led the old headers too
      have le : e.1 ≤ name := least _ ((beside _).mpr (.inl rfl))
      have lower : e.1 < name := String.not_le.mp fun ge => other (String.le_antisymm le ge)
      refine leading e ⟨old, fun e' there' => ?_⟩ lower
      by_cases same : e'.1 = name
      · rwa [same]
      · exact least e' ((beside e').mpr (.inr ⟨there', same⟩))

end Headers

namespace Request

variable {r : Request} {name : String}

theorem hasHeader_iff : r.hasHeader name = true ↔ ∃ e, r.headers.Spells name e := by
  rw [hasHeader, Option.isSome_iff_exists]
  constructor
  · rintro ⟨values, found⟩
    obtain ⟨e, leads, -⟩ := Headers.lookup_eq_some.mp found
    exact ⟨e, leads.1⟩
  · rintro ⟨e, there⟩
    obtain ⟨e', leads⟩ := Headers.exists_leads there
    exact ⟨e'.2, Headers.lookup_eq_some.mpr ⟨e', leads, rfl⟩⟩

end Request

namespace Sink

variable {σ : Type} {w : World σ} {r : Request} {e : String × List String}

theorem mem_setHeader {h : String × String} : e ∈ (setHeader r h).headers.entries ↔
    e = (h.1, [h.2]) ∨ e ∈ r.headers.entries ∧ e.1 ≠ h.1 :=
  Dict.mem_insert

theorem mem_setHeaders {headers : List (String × String)} (distinct : (headers.map (·.1)).Nodup) :
    e ∈ (headers.foldl setHeader r).headers.entries ↔
      (∃ h ∈ headers, e = (h.1, [h.2])) ∨ e ∈ r.headers.entries ∧ e.1 ∉ headers.map (·.1) := by
  induction headers generalizing r with
  | nil => simp
  | cons h headers ih =>
    obtain ⟨fresh, distinct⟩ := List.nodup_cons.mp distinct
    rw [List.foldl_cons, ih distinct, mem_setHeader, List.map_cons, List.mem_cons, not_or]
    constructor
    · rintro (⟨h', later, rfl⟩ | ⟨rfl | ⟨member, other⟩, absent⟩)
      · exact .inl ⟨h', List.mem_cons_of_mem h later, rfl⟩
      · exact .inl ⟨h, List.mem_cons_self, rfl⟩
      · exact .inr ⟨member, other, absent⟩
    · rintro (⟨h', member, rfl⟩ | ⟨member, other, absent⟩)
      · rcases List.mem_cons.mp member with rfl | later
        · exact .inr ⟨.inl rfl, fresh⟩
        · exact .inl ⟨h', later, rfl⟩
      · exact .inr ⟨.inr ⟨member, other⟩, absent⟩

theorem mem_addIdentifier {wanted : Bool} {name : String} {st : σ} :
    e ∈ (addIdentifier w wanted name r st).1.headers.entries ↔ e ∈ r.headers.entries ∨
      (wanted = true ∧ r.hasHeader name = false) ∧ e = (name, [(w.identifier st).1]) := by
  unfold addIdentifier
  split
  · rename_i missing
    have missing : wanted = true ∧ r.hasHeader name = false := by simpa using missing
    have absent : ∀ e ∈ r.headers.entries, e.1 ≠ name := by
      rintro e member rfl
      have there := Request.hasHeader_iff.mpr ⟨e, member, Text.sameName_refl e.1⟩
      rw [missing.2] at there
      cases there
    have none : r.headers.find? name = none := by
      cases found : r.headers.find? name with
      | none => rfl
      | some values =>
        have member : (name, values) ∈ r.headers.entries := Dict.mem_iff_find?.mpr found
        exact absurd rfl (absent _ member)
    dsimp only [Request.withHeader, Headers.add]
    rw [none, Dict.mem_insert, and_iff_right missing, or_comm]
    exact or_congr_left (and_iff_left_of_imp (absent e))
  · rename_i there
    have there : ¬(wanted = true ∧ r.hasHeader name = false) := by simpa using there
    rw [or_iff_left fun added => there added.1]

theorem spells_addIdentifier {wanted : Bool} {id name : String} {st : σ}
    (there : ∃ e, r.headers.Spells name e) :
    (addIdentifier w wanted id r st).1.headers.Spells name e ↔ r.headers.Spells name e := by
  unfold Headers.Spells
  rw [mem_addIdentifier]
  refine and_congr_left fun same => or_iff_left ?_
  rintro ⟨⟨-, missing⟩, rfl⟩
  obtain ⟨e, member, same'⟩ := there
  have spelled : Text.sameName e.1 id = true := Text.sameName_trans same' (Text.sameName_symm same)
  have found := Request.hasHeader_iff.mpr ⟨e, member, spelled⟩
  rw [missing] at found
  cases found

section Static

variable {headers : List (String × String)} {name value : String}
    (different : headers.Pairwise fun a b => Text.sameName a.1 b.1 = false)

include different

theorem eq_of_sameName {a b : String × String} (ha : a ∈ headers) (hb : b ∈ headers)
    (same : Text.sameName a.1 b.1 = true) : a = b := by
  have forward : headers.Pairwise fun a b => Text.sameName a.1 b.1 = true → a = b :=
    different.imp fun other same => absurd same (by rw [other]; decide)
  have backward : headers.Pairwise (flip fun a b => Text.sameName a.1 b.1 = true → a = b) :=
    different.imp fun other same => by
      rw [Text.sameName_symm same] at other
      cases other
  exact List.Pairwise.forall_of_forall_of_flip (fun _ _ _ => rfl) forward backward ha hb same

theorem nodup_of_different : (headers.map (·.1)).Nodup := by
  refine List.pairwise_map.mpr (different.imp fun other same => ?_)
  rw [same, Text.sameName_refl] at other
  cases other

theorem spells_setHeaders (member : (name, value) ∈ headers) :
    (headers.foldl setHeader r).headers.Spells name e ↔
      e = (name, [value]) ∨ r.headers.Spells name e ∧ e.1 ≠ name := by
  unfold Headers.Spells
  rw [mem_setHeaders (nodup_of_different different)]
  constructor
  · rintro ⟨⟨h, listed, rfl⟩ | ⟨old, other⟩, same⟩
    · rw [eq_of_sameName different listed member same]
      exact .inl rfl
    · exact .inr ⟨⟨old, same⟩, fun named => other (named ▸ List.mem_map_of_mem member)⟩
  · rintro (rfl | ⟨⟨old, same⟩, other⟩)
    · exact ⟨.inl ⟨_, member, rfl⟩, Text.sameName_refl name⟩
    · refine ⟨.inr ⟨old, fun listed => ?_⟩, same⟩
      obtain ⟨h, listed, named⟩ := List.mem_map.mp listed
      have itself := eq_of_sameName different listed member (named ▸ same)
      rw [itself] at named
      exact other named.symm

end Static

theorem spells_enrich {s : SinkSettings} {st : σ} {name value : String}
    (different : s.staticHeaders.Pairwise fun a b => Text.sameName a.1 b.1 = false)
    (member : (name, value) ∈ s.staticHeaders) : (enrich w s r st).1.headers.Spells name e ↔
      e = (name, [value]) ∨ r.headers.Spells name e ∧ e.1 ≠ name := by
  have set := fun e => spells_setHeaders (r := r) (e := e) different member
  have there : ∃ e, (s.staticHeaders.foldl setHeader r).headers.Spells name e :=
    ⟨_, (set _).mpr (.inl rfl)⟩
  rw [enrich]
  dsimp only
  rw [spells_addIdentifier, spells_addIdentifier there, set]
  exact there.imp fun e there => (spells_addIdentifier ⟨e, there⟩).mpr there

/-- A static header takes the place of the header with its exact name. Its value is the only one
under all spellings just if no other spelling of the request has values, and it is the one that is
found just if no spelling that comes before leads to other values. -/
theorem enrich_static (w : World σ) {s : SinkSettings} (r : Request) (st : σ) {name value : String}
    (different : s.staticHeaders.Pairwise fun a b => Text.sameName a.1 b.1 = false)
    (member : (name, value) ∈ s.staticHeaders) :
    (enrich w s r st).1.headers.find? name = some [value] ∧
      (∀ e, (enrich w s r st).1.headers.Spells name e ↔
        e = (name, [value]) ∨ r.headers.Spells name e ∧ e.1 ≠ name) ∧
      ((enrich w s r st).1.headers.gathered name = [value] ↔
        ∀ e, r.headers.Spells name e → e.1 ≠ name → e.2 = []) ∧
      ((enrich w s r st).1.headerValues name = some [value] ↔
        ∀ e, r.headers.Leads name e → e.1 < name → e.2 = [value]) := by
  have beside (e : String × List String) : (enrich w s r st).1.headers.Spells name e ↔
      e = (name, [value]) ∨ r.headers.Spells name e ∧ e.1 ≠ name :=
    spells_enrich different member
  have there := (beside (name, [value])).mpr (.inl rfl)
  refine ⟨there.find?, beside, ?_, Headers.lookup_eq_some_of_beside beside⟩
  rw [Headers.gathered_eq_iff there]
  constructor
  · exact fun none e old other => none e ((beside e).mpr (.inr ⟨old, other⟩)) other
  · rintro none e there other
    rcases (beside e).mp there with rfl | ⟨old, -⟩
    · exact absurd rfl other
    · exact none e old other

def teamSettings : SinkSettings :=
  { (default : SinkSettings) with staticHeaders := [("X-Team", "payments")] }

def teamRequest (name : String) : Request :=
  (Request.get "http://svc.test/a").withHeader name "other"

theorem different_teamSettings :
    teamSettings.staticHeaders.Pairwise fun a b => Text.sameName a.1 b.1 = false :=
  List.pairwise_singleton _ _

theorem enrich_team :
    (teamSettings.staticHeaders.Pairwise fun a b => Text.sameName a.1 b.1 = false) ∧
      ("X-Team", "payments") ∈ teamSettings.staticHeaders ∧
      (enrich Retry.clockWorld teamSettings (teamRequest "X-Team") 0).1.headers.gathered "X-Team" =
        ["payments"] ∧
      (enrich Retry.clockWorld teamSettings (teamRequest "X-Team") 0).1.headerValues "X-Team" =
        some ["payments"] := by
  have member : ("X-Team", "payments") ∈ teamSettings.staticHeaders := List.mem_cons_self
  obtain ⟨-, -, gathered, found⟩ :=
    enrich_static Retry.clockWorld (teamRequest "X-Team") 0 different_teamSettings member
  have only (e : String × List String) : (teamRequest "X-Team").headers.Spells "X-Team" e →
      e.1 = "X-Team" := by
    rintro ⟨old, -⟩
    have entries : (teamRequest "X-Team").headers.entries = [("X-Team", ["other"])] := rfl
    rw [entries, List.mem_singleton] at old
    rw [old]
  refine ⟨different_teamSettings, member, gathered.mpr fun e old other => ?_,
    found.mpr fun e leads lower => ?_⟩
  · exact absurd (only e old) other
  · exact absurd lower (only e leads.1 ▸ String.lt_irrefl _)

/-- Other spellings of a request keep their values, and one that comes before is found instead. -/
theorem enrich_other_spellings :
    (teamSettings.staticHeaders.Pairwise fun a b => Text.sameName a.1 b.1 = false) ∧
      (enrich Retry.clockWorld teamSettings (teamRequest "x-team") 0).1.headers.gathered "X-Team" =
        ["payments", "other"] ∧
      (enrich Retry.clockWorld teamSettings (teamRequest "X-TEAM") 0).1.headerValues "X-Team" =
        some ["other"] :=
  ⟨different_teamSettings, by decide +kernel, by decide +kernel⟩

end Sink

end HttpBridge
