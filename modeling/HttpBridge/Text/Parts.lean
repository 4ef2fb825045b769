namespace HttpBridge.Text

def splitWhere (test : Char → Bool) : List Char → List (List Char)
  | [] => [[]]
  | c :: cs =>
    match splitWhere test cs with
    | [] => [[c]]
    | part :: parts => if test c then [] :: part :: parts else (c :: part) :: parts

theorem splitWhere_ne_nil (test : Char → Bool) (cs : List Char) : splitWhere test cs ≠ [] := by
  cases cs with
  | nil => exact List.cons_ne_nil _ _
  | cons c cs =>
    rw [splitWhere]
    split
    · exact List.cons_ne_nil _ _
    · split <;> exact List.cons_ne_nil _ _

section Separator

variable {sep : Char} {part : List Char} (plain : sep ∉ part)

include plain

theorem splitWhere_plain : splitWhere (· == sep) part = [part] := by
  induction part with
  | nil => rfl
  | cons c part ih =>
    simp only [List.mem_cons, not_or] at plain
    simp [splitWhere, ih plain.2, Ne.symm plain.1]

theorem splitWhere_more (rest : List Char) :
    splitWhere (· == sep) (part ++ sep :: rest) = part :: splitWhere (· == sep) rest := by
  induction part with
  | nil =>
    obtain ⟨next, parts, found⟩ := List.exists_cons_of_ne_nil (splitWhere_ne_nil (· == sep) rest)
    simp [splitWhere, found]
  | cons c part ih =>
    simp only [List.mem_cons, not_or] at plain
    simp [splitWhere, ih plain.2, Ne.symm plain.1]

end Separator

def words (cs : List Char) : List (List Char) :=
  (splitWhere (fun c => c == ' ' || c == '\n') cs).filter (· ≠ [])

def dropStart? : List Char → List Char → Option (List Char)
  | [], cs => some cs
  | _ :: _, [] => none
  | w :: ws, c :: cs => if w = c then dropStart? ws cs else none

end HttpBridge.Text
