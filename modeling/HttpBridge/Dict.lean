/-!
Dictionaries with text keys, kept as lists in key order. Two dictionaries are equal as soon as they
hold the same entries, and they are written in key order.
-/

namespace HttpBridge

def Ascending {α : Type} (entries : List (String × α)) : Prop :=
  entries.Pairwise fun a b => a.1 < b.1

instance {α : Type} (entries : List (String × α)) : Decidable (Ascending entries) :=
  inferInstanceAs (Decidable (entries.Pairwise _))

structure Dict (α : Type) where
  entries : List (String × α)
  ascending : Ascending entries
  deriving DecidableEq

namespace Dict

variable {α β : Type}

def empty : Dict α := ⟨[], .nil⟩

instance : EmptyCollection (Dict α) := ⟨empty⟩
instance : Inhabited (Dict α) := ⟨empty⟩

def put (key : String) (value : α) : List (String × α) → List (String × α)
  | [] => [(key, value)]
  | (k, v) :: rest =>
    if key < k then (key, value) :: (k, v) :: rest
    else if key = k then (key, value) :: rest
    else (k, v) :: put key value rest

theorem mem_put {key : String} {value : α} {entries : List (String × α)} {e : String × α}
    (h : e ∈ put key value entries) : e = (key, value) ∨ e ∈ entries := by
  induction entries with
  | nil => simpa [put] using h
  | cons head rest ih =>
    obtain ⟨k, v⟩ := head
    simp only [put] at h
    split at h
    · simpa using h
    · split at h
      · simp only [List.mem_cons] at h ⊢
        exact h.imp_right .inr
      · simp only [List.mem_cons] at h ⊢
        exact h.elim (fun he => .inr (.inl he)) fun he => (ih he).imp_right .inr

theorem put_ascending (key : String) (value : α) {entries : List (String × α)}
    (h : Ascending entries) : Ascending (put key value entries) := by
  induction entries with
  | nil => simp [put, Ascending]
  | cons head rest ih =>
    obtain ⟨k, v⟩ := head
    obtain ⟨low, tail⟩ := List.pairwise_cons.mp h
    simp only [put]
    split
    · rename_i hk
      refine List.pairwise_cons.mpr ⟨fun e he => ?_, h⟩
      rcases List.mem_cons.mp he with rfl | he
      · exact hk
      · exact String.lt_trans hk (low e he)
    · rename_i hk
      split
      · rename_i he
        subst he
        exact List.pairwise_cons.mpr ⟨low, tail⟩
      · rename_i he
        refine List.pairwise_cons.mpr ⟨fun e hm => ?_, ih tail⟩
        rcases mem_put hm with rfl | hm
        · exact Decidable.byContradiction fun hlt =>
            he (String.le_antisymm (String.not_lt.mp hlt) (String.not_lt.mp hk))
        · exact low e hm

theorem put_greatest {key : String} {value : α} {entries : List (String × α)}
    (h : ∀ e ∈ entries, e.1 < key) : put key value entries = entries ++ [(key, value)] := by
  induction entries with
  | nil => rfl
  | cons head rest ih =>
    obtain ⟨k, v⟩ := head
    have low : k < key := h (k, v) List.mem_cons_self
    have ne : key ≠ k := fun he => String.lt_irrefl key (he ▸ low)
    rw [put, if_neg (fun hk => String.lt_irrefl k (String.lt_trans low hk)), if_neg ne,
      ih fun e he => h e (List.mem_cons_of_mem _ he)]
    rfl

theorem lookup_put (key : String) (value : α) (entries : List (String × α)) :
    (put key value entries).lookup key = some value := by
  induction entries with
  | nil => simp [put]
  | cons head rest ih =>
    obtain ⟨k, v⟩ := head
    rw [put]
    split
    · simp
    · split
      · simp
      · rename_i ne
        rw [List.lookup_cons, beq_false_of_ne ne]
        exact ih

theorem lookup_put_of_ne {key other : String} (value : α) (entries : List (String × α))
    (ne : other ≠ key) : (put key value entries).lookup other = entries.lookup other := by
  have skip : (other == key) = false := beq_false_of_ne ne
  induction entries with
  | nil => simp [put, List.lookup_cons, skip]
  | cons head rest ih =>
    obtain ⟨k, v⟩ := head
    rw [put]
    split
    · rw [List.lookup_cons, skip]
    · split
      · rename_i same
        rw [← same, List.lookup_cons, List.lookup_cons, skip]
      · rw [List.lookup_cons, List.lookup_cons, ih]

def insert (d : Dict α) (key : String) (value : α) : Dict α :=
  ⟨put key value d.entries, put_ascending key value d.ascending⟩

def find? (d : Dict α) (key : String) : Option α :=
  d.entries.lookup key

theorem find?_insert (d : Dict α) (key : String) (value : α) :
    (d.insert key value).find? key = some value :=
  lookup_put key value d.entries

theorem find?_insert_of_ne (d : Dict α) {key other : String} (value : α) (ne : other ≠ key) :
    (d.insert key value).find? other = d.find? other :=
  lookup_put_of_ne value d.entries ne

def contains (d : Dict α) (key : String) : Bool :=
  (d.find? key).isSome

def erase (d : Dict α) (key : String) : Dict α :=
  ⟨d.entries.filter (·.1 != key), d.ascending.filter _⟩

def filter (d : Dict α) (keep : String → α → Bool) : Dict α :=
  ⟨d.entries.filter fun e => keep e.1 e.2, d.ascending.filter _⟩

def map (f : α → β) (d : Dict α) : Dict β :=
  ⟨d.entries.map fun e => (e.1, f e.2), by simpa [Ascending, List.pairwise_map] using d.ascending⟩

/-- Collects entries; of two with the same key the later one stays. -/
def ofList (entries : List (String × α)) : Dict α :=
  entries.foldl (fun d e => d.insert e.1 e.2) empty

def keys (d : Dict α) : List String :=
  d.entries.map (·.1)

theorem mem_keys {d : Dict α} {key : String} : key ∈ d.keys ↔ (d.find? key).isSome := by
  rw [keys, List.mem_map, find?, List.lookup_isSome_iff]
  constructor
  · rintro ⟨e, member, rfl⟩
    exact ⟨e, member, beq_self_eq_true _⟩
  · rintro ⟨e, member, same⟩
    exact ⟨e, member, (beq_iff_eq.mp same).symm⟩

theorem mem_iff_find? {d : Dict α} {e : String × α} : e ∈ d.entries ↔ d.find? e.1 = some e.2 := by
  rw [find?, List.lookup_eq_some_iff]
  constructor
  · intro member
    obtain ⟨before, after, split⟩ := List.append_of_mem member
    refine ⟨before, after, split, fun e' earlier => ?_⟩
    have ascending := d.ascending
    rw [split] at ascending
    have less : e'.1 < e.1 :=
      (List.pairwise_append.mp ascending).2.2 e' earlier e List.mem_cons_self
    exact bne_iff_ne.mpr (String.ne_of_lt less).symm
  · rintro ⟨before, after, split, -⟩
    rw [split]
    exact List.mem_append_right _ List.mem_cons_self

theorem mem_insert {d : Dict α} {key : String} {value : α} {e : String × α} :
    e ∈ (d.insert key value).entries ↔ e = (key, value) ∨ e ∈ d.entries ∧ e.1 ≠ key := by
  obtain ⟨k, v⟩ := e
  rw [mem_iff_find?, mem_iff_find?]
  by_cases same : k = key
  · rw [same, find?_insert]
    simp [eq_comm]
  · rw [find?_insert_of_ne d value same]
    simp [same]

theorem nodup_keys (d : Dict α) : d.keys.Nodup :=
  List.pairwise_map.mpr (d.ascending.imp String.ne_of_lt)

def values (d : Dict α) : List α :=
  d.entries.map (·.2)

def size (d : Dict α) : Nat :=
  d.entries.length

def isEmpty (d : Dict α) : Bool :=
  d.entries.isEmpty

end Dict

end HttpBridge
