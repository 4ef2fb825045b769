import HttpBridge.Json.Read
import HttpBridge.Proofs.Results

namespace HttpBridge.Json

variable {α β γ δ : Type}

def Members.find? (name : String) : Members → Option Node
  | .next (.ok key) value tail => if key = name then some value else tail.find? name
  | _ => none

def Items.get? : Nat → Items → Option Node
  | 0, .next head _ => some head
  | index + 1, .next _ tail => tail.get? index
  | _, _ => none

theorem Items.finish_eq_ok {items : Items} {u : Unit} (h : items.finish = .ok u) :
    items = .done := by
  unfold finish at h
  split at h <;> first | rfl | cases h

namespace Field

structure Sets (field : Field δ) (get : δ → Option β) (read : Reader β) : Prop where
  isSet : ∀ d, field.isSet d = (get d).isSome
  reads : ∀ {d n d'}, field.read d n = .ok d' → ∃ b, read n = .ok b ∧ get d' = some b

def Keeps (field : Field δ) (get : δ → Option β) : Prop :=
  ∀ {d n d'}, field.read d n = .ok d' → get d' = get d

variable {name : String} {optional : Bool} {get : δ → Option β} {set : δ → β → δ} {read : Reader β}

theorem read_of {d d' : δ} {n : Node} (h : (of name optional get set read).read d n = .ok d') :
    ∃ b, read n = .ok b ∧ d' = set d b := by
  obtain ⟨b, hb, set⟩ := map_eq_ok.mp h
  exact ⟨b, hb, set.symm⟩

theorem of_sets (h : ∀ d b, get (set d b) = some b) :
    (of name optional get set read).Sets get read where
  isSet _ := rfl
  reads hr := by
    obtain ⟨b, hb, rfl⟩ := read_of hr
    exact ⟨b, hb, h _ b⟩

theorem of_keeps {part : δ → Option γ} (h : ∀ d b, part (set d b) = part d) :
    (of name optional get set read).Keeps part := by
  intro d n d' hr
  obtain ⟨b, -, rfl⟩ := read_of hr
  exact h d b

end Field

structure Holds (fields : List (Field δ)) (name : String) (get : δ → Option β) (read : Reader β) :
    Prop where
  own : ∀ f ∈ fields, f.name = name → f.Sets get read
  others : ∀ f ∈ fields, f.name ≠ name → f.Keeps get

theorem Holds.tail {field : Field δ} {fields : List (Field δ)} {name : String}
    {get : δ → Option β} {read : Reader β} (h : Holds (field :: fields) name get read) :
    Holds fields name get read where
  own f hf := h.own f (List.mem_cons_of_mem _ hf)
  others f hf := h.others f (List.mem_cons_of_mem _ hf)

section Holds

variable {fields : List (Field δ)} {name key : String} {optional : Bool} {get : δ → Option β}
  {set : δ → β → δ} {read : Reader β} {part : δ → Option γ} {readPart : Reader γ}

theorem Holds.nil : Holds [] name get read :=
  ⟨nofun, nofun⟩

theorem Holds.own_cons (h : ∀ d b, get (set d b) = some b) (rest : Holds fields name get read) :
    Holds (.of name optional get set read :: fields) name get read where
  own f hf hn := by
    rcases List.mem_cons.mp hf with rfl | hf
    · exact Field.of_sets h
    · exact rest.own f hf hn
  others f hf hn := by
    rcases List.mem_cons.mp hf with rfl | hf
    · exact absurd rfl hn
    · exact rest.others f hf hn

theorem Holds.other_cons (ne : key ≠ name) (h : ∀ d b, part (set d b) = part d)
    (rest : Holds fields name part readPart) :
    Holds (.of key optional get set read :: fields) name part readPart where
  own f hf hn := by
    rcases List.mem_cons.mp hf with rfl | hf
    · exact absurd hn ne
    · exact rest.own f hf hn
  others f hf hn := by
    rcases List.mem_cons.mp hf with rfl | hf
    · exact Field.of_keeps h
    · exact rest.others f hf hn

end Holds

namespace Shape

def draft (shape : Shape δ α) : Reader δ
  | .object members => members.fold shape.member shape.blank
  | .list items => shape.elements 0 shape.fields shape.blank items
  | n => .error (n.unexpected shape.name)

/-- Gives what a tree has for a field: by name in an object, by place in an array. -/
def given (shape : Shape δ α) (name : String) : Node → Option Node
  | .object members => members.find? name
  | .list items => items.get? ((shape.fields.map (·.name)).idxOf name)
  | _ => none

def part (shape : Shape δ α) (name : String) (read : Reader β) (n : Node) : Option β :=
  (shape.given name n).bind fun n => (read n).toOption

variable {shape : Shape δ α} {name : String} {get : δ → Option β} {read : Reader β} {d d' : δ}

theorem reader_eq_bind (shape : Shape δ α) (n : Node) :
    shape.reader n = shape.draft n >>= shape.finish := by
  cases n <;> rfl

theorem member_own {n : Node} (holds : Holds shape.fields name get read)
    (named : name ∈ shape.fields.map (·.name)) (h : shape.member d name n = .ok d') :
    get d = none ∧ ∃ b, read n = .ok b ∧ get d' = some b := by
  unfold member at h
  split at h
  · rename_i missing
    obtain ⟨f, hf, rfl⟩ := List.mem_map.mp named
    exact absurd (List.find?_eq_none.mp missing f hf) (by simp)
  · rename_i field found
    have sets := holds.own field (List.mem_of_find?_eq_some found)
      (by simpa using List.find?_some found)
    split at h
    · cases h
    · rename_i unset
      rw [sets.isSet] at unset
      exact ⟨by simpa using unset, sets.reads h⟩

theorem member_other {key : String} {n : Node} (holds : Holds shape.fields name get read)
    (ne : key ≠ name) (h : shape.member d key n = .ok d') : get d' = get d := by
  unfold member at h
  split at h
  · split at h
    · cases h
    · cases h
      rfl
  · rename_i field found
    have keyed : field.name = key := by simpa using List.find?_some found
    split at h
    · cases h
    · exact holds.others field (List.mem_of_find?_eq_some found) (keyed ▸ ne) h

theorem fold_member (holds : Holds shape.fields name get read)
    (named : name ∈ shape.fields.map (·.name)) :
    ∀ (members : Members) (d : δ), members.fold shape.member d = .ok d' →
      get d' = (get d).or ((members.find? name).bind fun n => (read n).toOption)
  | .done, d, h => by
    cases h
    exact Option.or_none.symm
  | .next (.ok key) value tail, d, h => by
    rw [Members.fold] at h
    obtain ⟨d₁, step, h⟩ := bind_eq_ok.mp h
    have rest := fold_member holds named tail d₁ h
    by_cases own : key = name
    · -- a second member of this name is refused, so the first one is what is kept
      subst own
      obtain ⟨unset, b, hb, set⟩ := member_own holds named step
      rw [rest, set, unset, Members.find?, if_pos rfl, Option.bind_some, hb]
      rfl
    · rw [rest, member_other holds own step, Members.find?, if_neg own]

theorem elements_cons {field : Field δ} {fields : List (Field δ)} {index : Nat} {items : Items}
    (h : shape.elements index (field :: fields) d items = .ok d') :
    (items = .done ∧ shape.elements (index + 1) fields d .done = .ok d') ∨
      ∃ head tail d₁, items = .next head tail ∧ field.read d head = .ok d₁ ∧
        shape.elements (index + 1) fields d₁ tail = .ok d' := by
  cases items with
  | done =>
    rw [elements] at h
    split at h
    · exact .inl ⟨rfl, h⟩
    · cases h
  | broken gap => cases h
  | next head tail =>
    rw [elements] at h
    obtain ⟨d₁, step, h⟩ := bind_eq_ok.mp h
    exact .inr ⟨head, tail, d₁, rfl, step, h⟩

theorem elements_nil {index : Nat} {items : Items}
    (h : shape.elements index [] d items = .ok d') : items = .done ∧ d' = d := by
  obtain ⟨u, finish, same⟩ := map_eq_ok.mp h
  exact ⟨Items.finish_eq_ok finish, same.symm⟩

theorem elements_other {fields : List (Field δ)} {index : Nat} {items : Items}
    (holds : Holds fields name get read) (absent : name ∉ fields.map (·.name))
    (h : shape.elements index fields d items = .ok d') : get d' = get d := by
  induction fields generalizing index d items with
  | nil => rw [(elements_nil h).2]
  | cons field fields ih =>
    rw [List.map_cons, List.mem_cons, not_or] at absent
    obtain ⟨-, others⟩ | ⟨head, tail, d₁, -, step, others⟩ := elements_cons h
    · exact ih holds.tail absent.2 others
    · rw [ih holds.tail absent.2 others]
      exact holds.others field List.mem_cons_self (Ne.symm absent.1) step

theorem elements_own {fields : List (Field δ)} {index : Nat} {items : Items}
    (holds : Holds fields name get read) (distinct : (fields.map (·.name)).Nodup)
    (h : shape.elements index fields d items = .ok d') :
    get d' = ((items.get? ((fields.map (·.name)).idxOf name)).bind
      fun n => (read n).toOption).or (get d) := by
  induction fields generalizing index d items with
  | nil =>
    obtain ⟨rfl, rfl⟩ := elements_nil h
    rfl
  | cons field fields ih =>
    rw [List.map_cons, List.nodup_cons] at distinct
    obtain ⟨rfl, others⟩ | ⟨head, tail, d₁, rfl, step, others⟩ := elements_cons h
    · have rest := ih holds.tail distinct.2 others
      have none : ∀ index, Items.done.get? index = none := fun index => by cases index <;> rfl
      rw [none] at rest ⊢
      exact rest
    · by_cases own : field.name = name
      · obtain ⟨b, hb, set⟩ := (holds.own field List.mem_cons_self own).reads step
        rw [elements_other holds.tail (own ▸ distinct.1) others, set, List.map_cons, own,
          List.idxOf_cons_self, Items.get?, Option.bind_some, hb]
        rfl
      · rw [ih holds.tail distinct.2 others, holds.others field List.mem_cons_self own step,
          List.map_cons, List.idxOf_cons, cond_eq_ite, if_neg (by simpa using own)]
        rfl

theorem draft_part {n : Node} (holds : Holds shape.fields name get read)
    (named : name ∈ shape.fields.map (·.name)) (distinct : (shape.fields.map (·.name)).Nodup)
    (blank : get shape.blank = none) (h : shape.draft n = .ok d) :
    get d = shape.part name read n := by
  cases n with
  | object members =>
    rw [fold_member holds named members _ h, blank, Option.none_or]
    rfl
  | list items =>
    rw [elements_own holds distinct h, blank, Option.or_none]
    rfl
  | _ => cases h

end Shape

end HttpBridge.Json
