import HttpBridge.Json.Read
import HttpBridge.Proofs.Json.Tree
import HttpBridge.Proofs.Results

namespace HttpBridge

namespace Json

variable {α β δ : Type}

def Reads (read : Reader α) (d : Data) (a : α) : Prop :=
  ∃ v, d.value = .ok v ∧ v.Fits ∧ read v.tree = .ok a

def Undoes (read : Reader α) (data : α → Data) : Prop :=
  ∀ a, Reads read (data a) a

theorem undoes_text : Undoes text .text :=
  fun s => ⟨.text s, rfl, trivial, rfl⟩

theorem undoes_boolean : Undoes boolean .boolean :=
  fun b => ⟨.boolean b, rfl, trivial, rfl⟩

theorem itemValues_cons {d : Data} {ds : List Data} {v : Value} {vs : List Value}
    (h : d.value = .ok v) (hs : itemValues ds = .ok vs) : itemValues (d :: ds) = .ok (v :: vs) := by
  rw [itemValues, h, hs]
  rfl

theorem fieldValues_cons {name : String} {d : Data} {rest : List (String × Data)} {v : Value}
    {vs : List (String × Value)} (h : d.value = .ok v) (hs : fieldValues rest = .ok vs) :
    fieldValues ((name, d) :: rest) = .ok ((name, v) :: vs) := by
  rw [fieldValues, h, hs]
  rfl

theorem entryValues_cons {key : String} {d : Data} {rest : List (Data × Data)} {v : Value}
    {vs : List (String × Value)} (h : d.value = .ok v) (hs : entryValues rest = .ok vs) :
    entryValues ((.text key, d) :: rest) = .ok ((key, v) :: vs) := by
  rw [entryValues, h, hs]
  rfl

theorem Undoes.list {read : Reader α} {data : α → Data} (h : Undoes read data) :
    Undoes (Json.list read) fun as => .list (as.map data) := by
  intro as
  have items : ∃ vs, itemValues (as.map data) = .ok vs ∧ ItemsFit vs ∧
      (itemTree vs).readAll read = .ok as := by
    induction as with
    | nil => exact ⟨[], rfl, trivial, rfl⟩
    | cons a as ih =>
      obtain ⟨v, value, fits, reads⟩ := h a
      obtain ⟨vs, values, allFit, all⟩ := ih
      refine ⟨v :: vs, itemValues_cons value values, ⟨fits, allFit⟩, ?_⟩
      rw [itemTree, Items.readAll, reads, all]
      rfl
  obtain ⟨vs, values, fits, reads⟩ := items
  refine ⟨.list vs, ?_, fits, reads⟩
  rw [Data.value, values]
  rfl

theorem Undoes.entries {read : Reader α} {data : α → Data} (h : Undoes read data)
    (entries : List (String × α)) :
    ∃ vs, entryValues (entries.map fun e => (.text e.1, data e.2)) = .ok vs ∧ MembersFit vs ∧
      ∀ (d : Dict α) (all : Ascending (d.entries ++ entries)),
        (memberTree vs).fold (fun d key n => (read n).map (d.insert key)) d =
          .ok ⟨d.entries ++ entries, all⟩ := by
  induction entries with
  | nil =>
    refine ⟨[], rfl, trivial, fun d all => ?_⟩
    simp [memberTree, Members.fold]
  | cons e rest ih =>
    obtain ⟨key, a⟩ := e
    obtain ⟨v, value, fits, reads⟩ := h a
    obtain ⟨vs, values, allFit, fold⟩ := ih
    refine ⟨(key, v) :: vs, entryValues_cons value values, ⟨fits, allFit⟩, fun d all => ?_⟩
    have low : ∀ e ∈ d.entries, e.1 < key :=
      fun e he => (List.pairwise_append.mp all).2.2 e he (key, a) List.mem_cons_self
    have put : (d.insert key a).entries = d.entries ++ [(key, a)] := Dict.put_greatest low
    have step := fold (d.insert key a) (by simpa [put] using all)
    rw [memberTree, Members.fold, reads]
    change Members.fold _ (d.insert key a) _ = _
    rw [step]
    simp [put]

theorem Undoes.dict {read : Reader α} {data : α → Data} (h : Undoes read data) :
    Undoes (Json.dict read) (ofDict data) := by
  intro d
  obtain ⟨vs, values, fits, fold⟩ := h.entries d.entries
  refine ⟨.object vs, ?_, fits, fold ∅ d.ascending⟩
  rw [ofDict, Data.value, values]
  rfl

theorem undoes_texts : Undoes (Json.list text) texts :=
  undoes_text.list

theorem Shape.fold_next {shape : Shape δ α} {key : String} {optional : Bool} {get : δ → Option β}
    {set : δ → β → δ} {read : Reader β} {n : Node} {b : β} {d : δ} (tail : Members)
    (found : shape.fields.find? (·.name == key) = some (.of key optional get set read))
    (unset : get d = none) (h : read n = .ok b) :
    (Members.next (.ok key) n tail).fold shape.member d = tail.fold shape.member (set d b) := by
  have member : shape.member d key n = .ok (set d b) := by
    rw [Shape.member, found]
    simp [Field.of, unset, h, Except.map]
  rw [Members.fold, member]
  rfl

/-- Says that the fields of a record, read one after another, take one draft to another. -/
inductive Shape.Fills (shape : Shape δ α) : δ → List (String × Data) → δ → Prop
  | nil {d : δ} : Fills shape d [] d
  | next {β : Type} {key : String} {optional : Bool} {get : δ → Option β} {set : δ → β → δ}
      {read : Reader β} {value : Data} {b : β} {d d' : δ} {rest : List (String × Data)}
      (reads : Reads read value b)
      (found : shape.fields.find? (·.name == key) = some (.of key optional get set read))
      (unset : get d = none) (fills : Fills shape (set d b) rest d') :
      Fills shape d ((key, value) :: rest) d'

theorem Shape.Fills.fold {shape : Shape δ α} {fields : List (String × Data)} {d d' : δ}
    (h : shape.Fills d fields d') : ∃ vs, fieldValues fields = .ok vs ∧ MembersFit vs ∧
      (memberTree vs).fold shape.member d = .ok d' := by
  induction h with
  | nil => exact ⟨[], rfl, trivial, rfl⟩
  | next reads found unset _ ih =>
    obtain ⟨v, value, fits, reads⟩ := reads
    obtain ⟨vs, values, allFit, fold⟩ := ih
    refine ⟨(_, v) :: vs, fieldValues_cons value values, ⟨fits, allFit⟩, ?_⟩
    rw [memberTree, Shape.fold_next _ found unset reads, fold]

theorem Shape.Fills.reads {shape : Shape δ α} {fields : List (String × Data)} {d : δ} {a : α}
    (h : shape.Fills shape.blank fields d) (finish : shape.finish d = .ok a) :
    Reads shape.reader (.record fields) a := by
  obtain ⟨vs, values, fits, fold⟩ := h.fold
  refine ⟨.object vs, ?_, fits, ?_⟩
  · rw [Data.value, values]
    rfl
  · rw [Value.tree, Shape.reader, fold]
    exact finish

section Reads

variable {read : Reader α} {d : Data} {a : α}

theorem Reads.decode (h : Reads read d a) :
    ∃ s, d.serialize = .ok s ∧ Json.decode read s = .ok a := by
  obtain ⟨v, value, fits, reads⟩ := h
  refine ⟨v.render, ?_, ?_⟩
  · rw [Data.serialize, value]
    rfl
  · rw [Json.decode, parse_render v fits]
    simp only [reads]
    rfl

theorem Reads.text (h : Reads read d a) :
    d.serialize = .ok (d.serialize.toOption.getD "") ∧
      Json.decode read (d.serialize.toOption.getD "") = .ok a := by
  obtain ⟨s, written, reads⟩ := h.decode
  rw [written]
  exact ⟨rfl, reads⟩

end Reads

section Decode

variable {read : Reader α} {s : String} {a : α}

theorem decode_eq_ok :
    decode read s = .ok a ↔ read (parse s).root = .ok a ∧ (parse s).more = false := by
  unfold decode
  cases h : read (parse s).root with
  | ok b => cases more : (parse s).more <;> simp [h, more]
  | error f => simp [h]

theorem decode_bind (f : α → Except Fault β) (h : decode read s = .ok a) :
    decode (fun n => read n >>= f) s = f a := by
  obtain ⟨root, more⟩ := decode_eq_ok.mp h
  have step : (read (parse s).root >>= f) = f a := by rw [root]; rfl
  simp only [decode, step, more]
  cases f a <;> rfl

theorem decode_bind_eq_ok {f : α → Except Fault β} {b : β} :
    decode (fun n => read n >>= f) s = .ok b ↔ ∃ a, decode read s = .ok a ∧ f a = .ok b := by
  constructor
  · intro h
    obtain ⟨steps, more⟩ := decode_eq_ok.mp h
    obtain ⟨a, root, step⟩ := bind_eq_ok.mp steps
    exact ⟨a, decode_eq_ok.mpr ⟨root, more⟩, step⟩
  · rintro ⟨a, h, hb⟩
    rw [decode_bind f h, hb]

end Decode

end Json

end HttpBridge
