import HttpBridge.Settings
import Mathlib.Data.List.Sort

namespace HttpBridge

theorem Text.dropStart?_eq_some {beginning cs rest : List Char} :
    dropStart? beginning cs = some rest ↔ cs = beginning ++ rest := by
  induction beginning generalizing cs with
  | nil => simp [dropStart?]
  | cons w ws ih =>
    cases cs with
    | nil => simp [dropStart?]
    | cons c cs =>
      rw [dropStart?]
      split
      · rename_i same
        simp [ih, same]
      · rename_i ne
        simp [Ne.symm ne]

theorem stripBeginning_eq_some {beginning s key : String} :
    stripBeginning beginning s = some key ↔ s = beginning ++ key := by
  rw [stripBeginning, Option.map_eq_some_iff, ← String.toList_inj, String.toList_append]
  constructor
  · rintro ⟨rest, stripped, rfl⟩
    rw [String.toList_ofList]
    exact Text.dropStart?_eq_some.mp stripped
  · intro same
    exact ⟨key.toList, Text.dropStart?_eq_some.mpr same, String.ofList_toList⟩

theorem lt_of_append_lt {beginning a b : String} (h : beginning ++ a < beginning ++ b) : a < b := by
  rw [String.lt_iff, String.toList_append, String.toList_append] at h
  rw [String.lt_iff]
  generalize beginning.toList = cs at h
  induction cs with
  | nil => exact h
  | cons c cs ih => exact ih (by simpa using h)

variable {α : Type}

theorem Dict.ext_find? {d d' : Dict α} (h : ∀ key, d.find? key = d'.find? key) : d = d' := by
  have antisymm : Std.Antisymm fun a b : String × α => a.1 < b.1 :=
    ⟨fun _ _ lower higher => absurd higher (String.lt_asymm lower)⟩
  have irrefl : Std.Irrefl fun a b : String × α => a.1 < b.1 := ⟨fun _ => String.lt_irrefl _⟩
  have same : d.entries = d'.entries := d.ascending.eq_of_mem_iff d'.ascending fun e => by
    rw [mem_iff_find?, mem_iff_find?, h]
  cases d
  cases d'
  cases same
  rfl

theorem Dict.entries_ofList {entries : List (String × α)} (ascending : Ascending entries) :
    (ofList entries).entries = entries := by
  suffices all : ∀ d : Dict α, Ascending (d.entries ++ entries) →
      (entries.foldl (fun d e => d.insert e.1 e.2) d).entries = d.entries ++ entries from
    all ∅ ascending
  clear ascending
  induction entries with
  | nil => exact fun d _ => (List.append_nil _).symm
  | cons e rest ih =>
    intro d ascending
    have low : ∀ e' ∈ d.entries, e'.1 < e.1 :=
      fun e' member => (List.pairwise_append.mp ascending).2.2 e' member e List.mem_cons_self
    have put : (d.insert e.1 e.2).entries = d.entries ++ [e] := Dict.put_greatest low
    rw [List.foldl_cons, ih _ (by simpa [put] using ascending), put, List.append_assoc]
    rfl

namespace Settings

def strip (beginning : String) (e : String × String) : Option (String × String) :=
  (stripBeginning beginning e.1).map fun key => (key, e.2)

theorem strip_eq_some {beginning : String} {e e' : String × String} :
    strip beginning e = some e' ↔ e = (beginning ++ e'.1, e'.2) := by
  obtain ⟨key, value⟩ := e'
  simp only [strip, Option.map_eq_some_iff, stripBeginning_eq_some, Prod.ext_iff]
  constructor
  · rintro ⟨_, same, rfl, rfl⟩
    exact ⟨same, rfl⟩
  · rintro ⟨same, rfl⟩
    exact ⟨key, same, rfl, rfl⟩

theorem entries_under (s : Settings) (beginning : String) :
    (s.under beginning).values.entries = s.values.entries.filterMap (strip beginning) := by
  apply Dict.entries_ofList
  apply s.values.ascending.filterMap
  intro e e' less e₁ same₁ e₂ same₂
  rw [strip_eq_some.mp same₁, strip_eq_some.mp same₂] at less
  exact lt_of_append_lt less

theorem get?_under (s : Settings) (beginning key : String) :
    (s.under beginning).get? key = s.get? (beginning ++ key) := by
  rw [get?, get?, Dict.find?, Dict.find?, entries_under]
  induction s.values.entries with
  | nil => rfl
  | cons e rest ih =>
    by_cases same : beginning ++ key = e.1
    · have here : strip beginning e = some (key, e.2) := strip_eq_some.mpr (Prod.ext same.symm rfl)
      rw [List.filterMap_cons_some here, List.lookup_cons, List.lookup_cons, same]
      simp
    · rw [List.lookup_cons, beq_false_of_ne same]
      cases stripped : strip beginning e with
      | none =>
        rw [List.filterMap_cons_none stripped]
        exact ih
      | some e' =>
        have ne : key ≠ e'.1 := by
          rintro rfl
          exact same (strip_eq_some.mp stripped ▸ rfl)
        rw [List.filterMap_cons_some stripped, List.lookup_cons, beq_false_of_ne ne]
        exact ih

theorem get?_insert_of_ne (s : Settings) {key other : String} (value : String)
    (ne : other ≠ key) : (s.insert key value).get? other = s.get? other :=
  Dict.find?_insert_of_ne s.values value ne

theorem ext_get? {s s' : Settings} (h : ∀ key, s.get? key = s'.get? key) : s = s' := by
  have same := Dict.ext_find? h
  cases s
  cases s'
  cases same
  rfl

theorem under_under (s : Settings) (beginning further : String) :
    (s.under beginning).under further = s.under (beginning ++ further) := by
  apply ext_get?
  intro key
  rw [get?_under, get?_under, get?_under, String.append_assoc]

theorem isSome_strip (beginning : String) (e : String × String) :
    (strip beginning e).isSome = beginning.toList.isPrefixOf e.1.toList := by
  rw [Bool.eq_iff_iff, Option.isSome_iff_exists, List.isPrefixOf_iff_prefix]
  constructor
  · rintro ⟨e', stripped⟩
    rw [strip_eq_some.mp stripped, String.toList_append]
    exact List.prefix_append ..
  · rintro ⟨rest, same⟩
    refine ⟨(String.ofList rest, e.2), strip_eq_some.mpr (Prod.ext ?_ rfl)⟩
    rw [← String.toList_inj, String.toList_append, String.toList_ofList, same]

theorem size_under (s : Settings) (beginning : String) : (s.under beginning).size =
    s.values.keys.countP fun key => beginning.toList.isPrefixOf key.toList := by
  rw [size, Dict.size, entries_under, List.length_filterMap_eq_countP, Dict.keys, List.countP_map]
  exact List.countP_congr fun e _ => by rw [isSome_strip]; rfl

theorem under_insert_of_not_prefix (s : Settings) {beginning key : String} (value : String)
    (outside : ¬ beginning.toList <+: key.toList) :
    (s.insert key value).under beginning = s.under beginning := by
  apply ext_get?
  intro other
  have ne : beginning ++ other ≠ key := by
    rintro rfl
    rw [String.toList_append] at outside
    exact outside (List.prefix_append ..)
  rw [get?_under, get?_under, get?_insert_of_ne s value ne]

/-- A slice of settings is a view of them. It finds just what is under its beginning, it can be cut
again, it has one entry for each key with the beginning, and a setting under any other key does not
change it. -/
theorem under_lossless (s : Settings) (beginning further : String) :
    (∀ key, (s.under beginning).get? key = s.get? (beginning ++ key)) ∧
    (s.under beginning).under further = s.under (beginning ++ further) ∧
    (s.under beginning).size =
      s.values.keys.countP (fun key => beginning.toList.isPrefixOf key.toList) ∧
    ∀ key value, ¬ beginning.toList <+: key.toList →
      (s.insert key value).under beginning = s.under beginning :=
  ⟨s.get?_under beginning, s.under_under beginning further, s.size_under beginning,
    fun _ value => s.under_insert_of_not_prefix value⟩

theorem under_lossless_dotted :
    let s := ofList [("config.a.method", "GET"), ("config.ab.method", "PUT"), ("config.a.", "")]
    (s.under "config.").under "a." = s.under "config.a." ∧ (s.under "config.a.").size = 2 ∧
      (s.under "config.a.").get? "" = s.get? "config.a." ∧
      (s.insert "config.a" "x").under "config.a." = s.under "config.a." := by
  intro s
  obtain ⟨-, cut, -, -⟩ := under_lossless s "config." "a."
  obtain ⟨found, -, size, outside⟩ := under_lossless s "config.a." ""
  exact ⟨cut, size.trans (by decide), found "", outside "config.a" "x" (by decide)⟩

end Settings

end HttpBridge
