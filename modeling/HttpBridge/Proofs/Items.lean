import HttpBridge.Settings

namespace HttpBridge

namespace Text

def Blanks (cs : List Char) : Prop :=
  ∀ c ∈ cs, isBlank c = true

theorem trimStart_blanks {left : List Char} (blanks : Blanks left) (cs : List Char) :
    trimStart (left ++ cs) = trimStart cs :=
  List.dropWhile_append_of_pos blanks

theorem trimStart_of_head {cs : List Char} {c : Char} (head : cs.head? = some c)
    (seen : isBlank c = false) : trimStart cs = cs := by
  cases cs with
  | nil => rfl
  | cons first rest =>
    cases head
    exact List.dropWhile_cons_of_neg (by simp [seen])

theorem trimStart_split (cs : List Char) : ∃ left, Blanks left ∧ cs = left ++ trimStart cs :=
  ⟨cs.takeWhile isBlank, List.all_eq_true.mp List.all_takeWhile,
    List.takeWhile_append_dropWhile.symm⟩

theorem trimEnd_eq (cs : List Char) : trimEnd cs = (trimStart cs.reverse).reverse := rfl

theorem trimEnd_blanks (cs : List Char) {right : List Char} (blanks : Blanks right) :
    trimEnd (cs ++ right) = trimEnd cs := by
  have blanks : Blanks right.reverse := fun c member => blanks c (List.mem_reverse.mp member)
  rw [trimEnd_eq, List.reverse_append, trimStart_blanks blanks, trimEnd_eq]

theorem trimEnd_split (cs : List Char) : ∃ right, Blanks right ∧ cs = trimEnd cs ++ right := by
  obtain ⟨left, blanks, split⟩ := trimStart_split cs.reverse
  refine ⟨left.reverse, fun c member => blanks c (List.mem_reverse.mp member), ?_⟩
  rw [trimEnd_eq, ← List.reverse_append, ← split, List.reverse_reverse]

theorem head_trimStart {cs : List Char} {c : Char} (head : (trimStart cs).head? = some c) :
    isBlank c = false := by
  have seen := List.head?_dropWhile_not isBlank cs
  rw [trimStart] at head
  rwa [head] at seen

theorem trimChars_split (cs : List Char) : ∃ left right, Blanks left ∧ Blanks right ∧
    cs = left ++ (trimChars cs ++ right) := by
  obtain ⟨left, before, split⟩ := trimStart_split cs
  obtain ⟨right, after, split'⟩ := trimEnd_split (trimStart cs)
  refine ⟨left, right, before, after, ?_⟩
  rw [trimChars, ← split', ← split]

theorem head_trimChars {cs : List Char} {c : Char} (head : (trimChars cs).head? = some c) :
    isBlank c = false := by
  obtain ⟨right, -, split⟩ := trimEnd_split (trimStart cs)
  refine head_trimStart (?_ : (trimStart cs).head? = some c)
  rw [split, List.head?_append]
  change ((trimChars cs).head?.or _) = _
  rw [head, Option.some_or]

theorem last_trimChars {cs : List Char} {c : Char} (last : (trimChars cs).getLast? = some c) :
    isBlank c = false := by
  rw [trimChars, trimEnd_eq, List.getLast?_reverse] at last
  exact head_trimStart last

theorem trimChars_blanks {cs : List Char} (blanks : Blanks cs) : trimChars cs = [] := by
  have start := trimStart_blanks blanks []
  rw [List.append_nil] at start
  rw [trimChars, start]
  rfl

end Text

namespace Settings

open Text

structure IsItem (cs : List Char) : Prop where
  first : ∃ c, cs.head? = some c ∧ isBlank c = false
  last : ∃ c, cs.getLast? = some c ∧ isBlank c = false
  whole : ',' ∉ cs

/-- What a part of a list stands for: nothing, or an item. -/
inductive Part : List Char → List String → Prop
  | blank {cs : List Char} (blanks : Blanks cs) : Part cs []
  | item {left cs right : List Char} (before : Blanks left) (item : IsItem cs)
      (after : Blanks right) : Part (left ++ (cs ++ right)) [.ofList cs]

inductive Lists : List Char → List String → Prop
  | last {part : List Char} {items : List String} (last : Part part items) : Lists part items
  | more {part rest : List Char} {items others : List String} (first : Part part items)
      (more : Lists rest others) : Lists (part ++ ',' :: rest) (items ++ others)

theorem IsItem.trimChars {left cs right : List Char} (item : IsItem cs) (before : Blanks left)
    (after : Blanks right) : trimChars (left ++ (cs ++ right)) = cs := by
  obtain ⟨c, head, seen⟩ := item.first
  obtain ⟨d, last, seen'⟩ := item.last
  have start : trimStart (cs ++ right) = cs ++ right :=
    trimStart_of_head (by rw [List.head?_append, head, Option.some_or]) seen
  rw [Text.trimChars, trimStart_blanks before, start, trimEnd_blanks cs after, trimEnd_eq,
    trimStart_of_head (List.head?_reverse.trans last) seen', List.reverse_reverse]

theorem blanks_plain {cs : List Char} (blanks : Blanks cs) : ',' ∉ cs :=
  fun member => absurd (blanks ',' member) (by decide)

theorem Part.plain {part : List Char} {items : List String} (h : Part part items) : ',' ∉ part := by
  cases h with
  | blank blanks => exact blanks_plain blanks
  | item before item after =>
    simp only [List.mem_append, not_or]
    exact ⟨blanks_plain before, item.whole, blanks_plain after⟩

def itemOf (part : List Char) : List String :=
  if trimChars part = [] then [] else [.ofList (trimChars part)]

theorem itemOf_eq {part : List Char} {items : List String} (h : Part part items) :
    itemOf part = items := by
  cases h with
  | blank blanks => rw [itemOf, if_pos (trimChars_blanks blanks)]
  | @item left cs right before item after =>
    have seen : cs ≠ [] := by
      rintro rfl
      obtain ⟨c, head, -⟩ := item.first
      cases head
    rw [itemOf, item.trimChars before after, if_neg seen]

theorem part_itemOf {part : List Char} (plain : ',' ∉ part) : Part part (itemOf part) := by
  obtain ⟨left, right, before, after, whole⟩ := trimChars_split part
  unfold itemOf
  split
  · rename_i blank
    rw [blank, List.nil_append] at whole
    refine .blank fun c member => ?_
    rw [whole] at member
    exact (List.mem_append.mp member).elim (before c) (after c)
  · rename_i seen
    have head := List.head?_eq_some_head seen
    have last := List.getLast?_eq_some_getLast seen
    have item : IsItem (trimChars part) := ⟨⟨_, head, head_trimChars head⟩,
      ⟨_, last, last_trimChars last⟩, fun member => plain <|
        whole ▸ List.mem_append_right _ (List.mem_append_left _ member)⟩
    generalize trimChars part = cs at whole item
    exact whole ▸ .item before item after

theorem listItems_eq (raw : List Char) :
    listItems raw = (splitWhere (· == ',') raw).flatMap itemOf := by
  rw [listItems]
  induction splitWhere (· == ',') raw with
  | nil => rfl
  | cons part parts ih =>
    rw [List.flatMap_cons, ← ih, itemOf, List.map_cons]
    split
    · rename_i blank
      simp [blank]
    · rename_i seen
      simp [seen]

theorem listItems_iff {raw : List Char} {items : List String} :
    listItems raw = items ↔ Lists raw items := by
  constructor
  · rintro rfl
    generalize length : raw.length = n
    -- on the length, since what follows the first comma is a list again
    induction n using Nat.strongRecOn generalizing raw with
    | ind n ih =>
      rw [listItems_eq]
      by_cases comma : ',' ∈ raw
      · obtain ⟨part, rest, rfl, plain⟩ := List.eq_append_cons_of_mem comma
        rw [splitWhere_more plain, List.flatMap_cons, ← listItems_eq]
        refine .more (part_itemOf plain) (ih rest.length ?_ rfl)
        simp only [List.length_append, List.length_cons] at length
        omega
      · rw [splitWhere_plain comma, List.flatMap_cons, List.flatMap_nil, List.append_nil]
        exact .last (part_itemOf comma)
  · intro lists
    rw [listItems_eq]
    induction lists with
    | last part =>
      rw [splitWhere_plain part.plain, List.flatMap_cons, List.flatMap_nil, List.append_nil]
      exact itemOf_eq part
    | more part rest ih =>
      rw [splitWhere_more part.plain, List.flatMap_cons, itemOf_eq part, ih]

theorem list_insert (s : Settings) (key raw : String) :
    (s.insert key raw).list key = listItems raw.toList := by
  rw [list, get?, insert, Dict.find?_insert]

theorem IsItem.part {item : String} (h : IsItem item.toList) : Part item.toList [item] := by
  have plain : Part ([] ++ (item.toList ++ [])) [.ofList item.toList] :=
    .item (List.forall_mem_nil _) h (List.forall_mem_nil _)
  rwa [List.nil_append, List.append_nil, String.ofList_toList] at plain

theorem Part.isItem {part : List Char} {items : List String} (h : Part part items) :
    ∀ item ∈ items, IsItem item.toList := by
  cases h with
  | blank => exact List.forall_mem_nil _
  | item _ item _ => exact List.forall_mem_singleton.mpr (String.toList_ofList ▸ item)

theorem Lists.isItem {raw : List Char} {items : List String} (h : Lists raw items) :
    ∀ item ∈ items, IsItem item.toList := by
  induction h with
  | last part => exact part.isItem
  | more first _ ih => exact List.forall_mem_append.mpr ⟨first.isItem, ih⟩

theorem isItem_of_mem_list {s : Settings} {key item : String} (member : item ∈ s.list key) :
    IsItem item.toList := by
  rw [list] at member
  split at member
  · exact (listItems_iff.mp rfl).isItem item member
  · cases member

theorem lists_intercalate {items : List String} (all : ∀ item ∈ items, IsItem item.toList) :
    Lists (",".intercalate items).toList items := by
  induction items with
  | nil => exact .last (.blank (List.forall_mem_nil _))
  | cons item rest ih =>
    obtain ⟨here, others⟩ := List.forall_mem_cons.mp all
    -- there is a comma after an item only if another one follows
    cases rest with
    | nil =>
      rw [String.intercalate_singleton]
      exact .last here.part
    | cons next rest =>
      have more := Lists.more here.part (ih others)
      rw [String.intercalate_cons_cons, String.append_assoc, String.toList_append,
        String.toList_append]
      exact more

theorem list_insert_intercalate (s : Settings) (key : String) {items : List String}
    (all : ∀ item ∈ items, IsItem item.toList) :
    (s.insert key (",".intercalate items)).list key = items := by
  rw [list_insert]
  exact listItems_iff.mpr (lists_intercalate all)

/-- Lists in settings are read exactly. What is read are items: none of them is empty, has a blank
at an end or holds a comma. A text is read as the items it lists, with their order and repetitions,
whatever blanks stand around them and however many blank parts between them. So items that are
stored with commas between them are read again, those that were read before among them. -/
theorem list_exact (s : Settings) (key : String) :
    (∀ item ∈ s.list key, IsItem item.toList) ∧
    (∀ raw items, (s.insert key raw).list key = items ↔ Lists raw.toList items) ∧
    (∀ items, (∀ item ∈ items, IsItem item.toList) →
      (s.insert key (",".intercalate items)).list key = items) ∧
    (s.insert key (",".intercalate (s.list key))).list key = s.list key := by
  refine ⟨fun _ => isItem_of_mem_list, fun raw items => ?_,
    fun _ => list_insert_intercalate s key, list_insert_intercalate s key fun _ =>
      isItem_of_mem_list⟩
  rw [list_insert]
  exact listItems_iff

theorem list_exact_repeated :
    let s := ofList [("config.ids", " b c,,\ta\u2003,b c, ")]
    s.list "config.ids" = ["b c", "a", "b c"] ∧ IsItem "b c".toList ∧
      Lists "b c,a,b c".toList (s.list "config.ids") ∧
      (s.insert "config.ids" "b c,b c").list "config.ids" = ["b c", "b c"] := by
  intro s
  obtain ⟨items, lists, joined, again⟩ := list_exact s "config.ids"
  have read : s.list "config.ids" = ["b c", "a", "b c"] := by decide
  have item : IsItem "b c".toList := items "b c" (read ▸ List.mem_cons_self)
  refine ⟨read, item, (lists "b c,a,b c" _).mp ?_, joined ["b c", "b c"] ?_⟩
  · rw [read] at again ⊢
    exact again
  · simpa using item

end Settings

end HttpBridge
