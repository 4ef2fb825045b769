import HttpBridge.Client.Payload
import HttpBridge.Proofs.Utf8
import Mathlib.Data.List.Basic
/-!
Parts are read back from the bytes that are sent for them, just if none of them contains the
delimiter. A delimiter starts with the only carriage return in it, so that none is made of the end
of a part and the delimiter that follows.
-/

namespace HttpBridge.Multipart

open Payload (text lineEnd encodeParts partHead)

section Search

variable {α : Type} [BEq α] [LawfulBEq α] {a : α} {as l found rest : List α}

theorem of_dropPrefix? {d : List α} (h : l.dropPrefix? d = some rest) : l = d ++ rest := by
  obtain ⟨d', rfl, same⟩ := List.dropPrefix?_eq_some_iff.mp h
  rw [eq_of_beq same]

theorem dropPrefix?_append (d : List α) : (d ++ rest).dropPrefix? d = some rest :=
  List.dropPrefix?_eq_some_iff.mpr ⟨d, rfl, BEq.rfl⟩

theorem of_dropInfix? {d : List α} (h : l.dropInfix? d = some (found, rest)) :
    l = found ++ d ++ rest := by
  obtain ⟨⟨d', rfl, same⟩, -⟩ := List.dropInfix?_eq_some_iff.mp h
  rw [eq_of_beq same]

/-- Of a pattern whose first item occurs nowhere else in it, no two occurrences overlap: where one
is written after a text, the first one to be found is that one, unless the text itself holds one. -/
theorem dropInfix?_append_iff (once : a ∉ as) :
    (l ++ a :: as ++ rest).dropInfix? (a :: as) = some (l, rest) ↔ ¬ (a :: as) <:+: l := by
  rw [List.dropInfix?_eq_some_iff]
  constructor
  · rintro ⟨-, first⟩ ⟨u, v, rfl⟩
    have short := first u (a :: as) (v ++ a :: as ++ rest) (by simp) BEq.rfl
    simp only [List.length_append, List.length_cons] at short
    omega
  · intro absent
    refine ⟨⟨_, rfl, BEq.rfl⟩, fun p d s split same => ?_⟩
    cases eq_of_beq same
    rw [List.append_assoc, List.append_assoc] at split
    obtain ⟨m, rfl, -⟩ | ⟨m, rfl, later⟩ := List.append_eq_append_iff.mp split
    · simp
    -- the other occurrence starts in the text; it has to start where the text ends
    cases m with
    | nil => simp
    | cons b m =>
      exfalso
      obtain ⟨k, inside, -⟩ | ⟨k, longer, again⟩ := List.append_eq_append_iff.mp later
      · exact absent ⟨p, k, by rw [inside, List.append_assoc]⟩
      · cases k with
        | nil => exact absent ⟨p, [], by rw [longer, List.append_nil, List.append_nil]⟩
        | cons c k =>
          injection longer with _ tail
          injection again with head _
          exact once (tail ▸ head ▸ List.mem_append_right m List.mem_cons_self)

end Search

def dashes (boundary : String) : List UInt8 :=
  text ("--" ++ boundary)

/-- What stands between a part and the next line with the boundary, and the start of that line. -/
def delimiter (boundary : String) : List UInt8 :=
  lineEnd ++ dashes boundary

theorem lineEnd_eq : lineEnd = [13, 10] := by decide

theorem delimiter_eq (boundary : String) :
    delimiter boundary = 13 :: 10 :: dashes boundary := by
  rw [delimiter, lineEnd_eq]
  rfl

def readLines (bs : List UInt8) : Option (List (List UInt8) × List UInt8) :=
  match _ : bs.dropInfix? lineEnd with
  | none => none
  | some (line, rest) =>
    if line = [] then some ([], rest)
    else (readLines rest).map fun r => (line :: r.1, r.2)
termination_by bs.length
decreasing_by
  rename_i found _
  rw [of_dropInfix? found, lineEnd_eq]
  simp only [List.length_append, List.length_cons]
  omega

def nameIn (line : List UInt8) : Option String := do
  let rest ← line.dropPrefix? (text "Content-Disposition: form-data; name=\"")
  let (name, _) ← rest.dropInfix? (text "\"")
  Utf8.decode? name

structure Part where
  name : String
  bytes : List UInt8
  deriving DecidableEq

def readPart (boundary : String) (bs : List UInt8) : Option (Part × List UInt8) := do
  let (lines, rest) ← readLines (← bs.dropPrefix? lineEnd)
  let name ← lines.findSome? nameIn
  let (bytes, rest) ← rest.dropInfix? (delimiter boundary)
  return (⟨name, bytes⟩, rest)

theorem readLines_length {bs rest : List UInt8} {lines : List (List UInt8)}
    (h : readLines bs = some (lines, rest)) : rest.length ≤ bs.length := by
  fun_induction readLines bs generalizing lines with
  | case1 => cases h
  | case2 bs rest' found =>
    cases h
    rw [of_dropInfix? found]
    simp only [List.length_append]
    omega
  | case3 bs line rest' found _ ih =>
    obtain ⟨⟨lines', last⟩, read, same⟩ := Option.map_eq_some_iff.mp h
    cases same
    have shorter : last.length ≤ rest'.length := ih read
    rw [of_dropInfix? found]
    simp only [List.length_append]
    omega

theorem readPart_length {boundary : String} {bs rest : List UInt8} {part : Part}
    (h : readPart boundary bs = some (part, rest)) : rest.length < bs.length := by
  simp only [readPart, Option.bind_eq_bind, Option.bind_eq_some_iff, Option.pure_def] at h
  obtain ⟨head, start, ⟨lines, after⟩, read, name, -, ⟨bytes, last⟩, found, same⟩ := h
  cases same
  have content : after = bytes ++ delimiter boundary ++ last := of_dropInfix? found
  have shorter := readLines_length read
  rw [content] at shorter
  rw [of_dropPrefix? start, lineEnd_eq]
  simp only [List.length_append, List.length_cons] at shorter ⊢
  omega

def readParts (boundary : String) (bs : List UInt8) : Option (List Part) :=
  if bs = text "--\r\n" then some []
  else match _ : readPart boundary bs with
    | none => none
    | some (part, rest) => (readParts boundary rest).map (part :: ·)
termination_by bs.length
decreasing_by exact readPart_length ‹_›

def read (boundary : String) (bs : List UInt8) : Option (List Part) :=
  (bs.dropPrefix? (dashes boundary)).bind (readParts boundary)

theorem readLines_found {bs line rest : List UInt8}
    (found : bs.dropInfix? lineEnd = some (line, rest)) :
    readLines bs =
      if line = [] then some ([], rest) else (readLines rest).map fun r => (line :: r.1, r.2) := by
  rw [readLines]
  split
  · rename_i missed
    cases found.symm.trans missed
  · rename_i again
    cases found.symm.trans again
    rfl

theorem readParts_more {boundary : String} {bs : List UInt8} (more : bs ≠ text "--\r\n") :
    readParts boundary bs =
      (readPart boundary bs).bind fun r => (readParts boundary r.2).map (r.1 :: ·) := by
  rw [readParts, if_neg more]
  split
  · rename_i missed
    rw [missed, Option.bind_none]
  · rename_i found
    rw [found, Option.bind_some]

section Frame

variable {boundary : String} {rest : List UInt8} {index : Nat}

theorem range_of_isAlphanum {c : Char} (h : c.isAlphanum) :
    0x30 ≤ c.toNat ∧ c.toNat ≤ 0x7a := by
  rcases Bool.or_eq_true_iff.mp h with alpha | digit
  · rcases Bool.or_eq_true_iff.mp alpha with upper | lower
    · obtain ⟨low, high⟩ : 0x41 ≤ c.toNat ∧ c.toNat ≤ 0x5a := of_decide_eq_true upper
      omega
    · obtain ⟨low, high⟩ := Bool.and_eq_true_iff.mp lower
      have low : 0x61 ≤ c.toNat := of_decide_eq_true low
      have high : c.toNat ≤ 0x7a := of_decide_eq_true high
      omega
  · obtain ⟨low, high⟩ : 0x30 ≤ c.toNat ∧ c.toNat ≤ 0x39 := Char.isDigit_iff_toNat.mp digit
    omega

theorem not_mem_text {s : String} {b : UInt8}
    (h : ∀ c ∈ s.toList, c.toNat < 0x80 ∧ c.toNat ≠ b.toNat) : b ∉ text s := by
  rw [text, Utf8.encode, Utf8.encodeChars_ascii fun c hc => (h c hc).1]
  intro hb
  obtain ⟨c, hc, rfl⟩ := List.mem_map.mp hb
  obtain ⟨ascii, other⟩ := h c hc
  exact other (UInt8.toNat_ofNat_of_lt (Nat.lt_trans ascii (by decide))).symm

theorem readLines_cons {line : List UInt8} (nonempty : line ≠ []) (single : 13 ∉ line) :
    readLines (line ++ lineEnd ++ rest) = (readLines rest).map fun r => (line :: r.1, r.2) := by
  have found : (line ++ lineEnd ++ rest).dropInfix? lineEnd = some (line, rest) := by
    rw [lineEnd_eq, dropInfix?_append_iff (by decide)]
    exact fun inside => single (inside.subset List.mem_cons_self)
  rw [readLines_found found, if_neg nonempty]

theorem readLines_nil : readLines (lineEnd ++ rest) = some ([], rest) := by
  have found : ([] ++ lineEnd ++ rest).dropInfix? lineEnd = some ([], rest) := by
    rw [lineEnd_eq, dropInfix?_append_iff (by decide)]
    simp
  exact (readLines_found found).trans (if_pos rfl)

def partName (index : Nat) : String :=
  "part" ++ toString index

theorem isAlphanum_partName : ∀ c ∈ (partName index).toList, c.isAlphanum := by
  have digits : (toString index).toList = Nat.toDigits 10 index := String.toList_ofList
  rw [partName, String.toList_append, digits]
  have word : "part".toList.all Char.isAlphanum = true := by decide
  intro c h
  rcases List.mem_append.mp h with h | h
  · exact List.all_eq_true.mp word c h
  · rw [Char.isAlphanum, Nat.isDigit_of_mem_toDigits (by decide) (by decide) h, Bool.or_true]

theorem not_mem_partName {b : UInt8} (h : b < 0x30) : b ∉ text (partName index) :=
  not_mem_text fun c hc => by
    have range := range_of_isAlphanum (isAlphanum_partName c hc)
    have small : b.toNat < 0x30 := h
    omega

def disposition (index : Nat) : List UInt8 :=
  text "Content-Disposition: form-data; name=\"" ++ (text (partName index) ++ text "\"" ++
    (text "; filename=\"" ++ text (partName index) ++ text "\""))

def contentType : List UInt8 :=
  text "Content-Type: application/octet-stream"

theorem partHead_eq :
    partHead boundary index = dashes boundary ++ (lineEnd ++
      (disposition index ++ lineEnd ++ (contentType ++ lineEnd ++ lineEnd))) := by
  have first : "\"; filename=\"" = "\"" ++ "; filename=\"" := rfl
  have second : "\"\r\n" = "\"" ++ "\r\n" := rfl
  have third : "Content-Type: application/octet-stream\r\n\r\n" =
    "Content-Type: application/octet-stream" ++ "\r\n" ++ "\r\n" := rfl
  simp only [partHead, dashes, disposition, contentType, lineEnd, text, partName,
    Utf8.encode_append, first, second, third, List.append_assoc]

theorem nameIn_disposition : nameIn (disposition index) = some (partName index) := by
  have quote : text "\"" = [34] := by decide
  rw [nameIn, disposition, dropPrefix?_append, Option.bind_eq_bind, Option.bind_some, quote,
    (dropInfix?_append_iff (by decide)).mpr fun inside =>
      not_mem_partName (by decide) (inside.subset List.mem_cons_self)]
  exact Utf8.decode?_encode _

theorem readLines_head : readLines
    (disposition index ++ lineEnd ++ (contentType ++ lineEnd ++ (lineEnd ++ rest))) =
      some ([disposition index, contentType], rest) := by
  have plain : 13 ∉ disposition index := by
    have name : 13 ∉ text (partName index) := not_mem_partName (by decide)
    simp only [disposition, List.mem_append, not_or]
    exact ⟨by decide, ⟨name, by decide⟩, ⟨by decide, name⟩, by decide⟩
  rw [readLines_cons _ plain, readLines_cons (by decide) (by decide), readLines_nil]
  · rfl
  · exact List.append_ne_nil_of_left_ne_nil (by decide) _

theorem readPart_append : readPart boundary (lineEnd ++
    (disposition index ++ lineEnd ++ (contentType ++ lineEnd ++ (lineEnd ++ rest)))) =
      (rest.dropInfix? (delimiter boundary)).map fun r => (⟨partName index, r.1⟩, r.2) := by
  have name : [disposition index, contentType].findSome? nameIn = some (partName index) := by
    rw [List.findSome?_cons, nameIn_disposition]
  rw [readPart, dropPrefix?_append, Option.bind_eq_bind, Option.bind_some, readLines_head,
    Option.bind_eq_bind, Option.bind_some]
  simp only [name]
  cases rest.dropInfix? (delimiter boundary) <;> rfl

def frames (boundary : String) : Nat → List (List UInt8) → List UInt8
  | _, [] => text "--\r\n"
  | index, part :: parts =>
    lineEnd ++ (disposition index ++ lineEnd ++ (contentType ++ lineEnd ++ (lineEnd ++
      (part ++ delimiter boundary ++ frames boundary (index + 1) parts))))

theorem encodeParts_eq (parts : List (List UInt8)) :
    encodeParts boundary index parts = dashes boundary ++ frames boundary index parts := by
  induction parts generalizing index with
  | nil => exact Utf8.encode_append ("--" ++ boundary) "--\r\n"
  | cons part parts ih =>
    rw [encodeParts, partHead_eq, ih, frames, delimiter]
    simp only [List.append_assoc]

def named (index : Nat) (parts : List (List UInt8)) : List Part :=
  (parts.zipIdx index).map fun part => ⟨partName part.2, part.1⟩

variable (plain : ∀ c ∈ boundary.toList, c.isAlphanum)

include plain in
theorem not_mem_dashes : 13 ∉ dashes boundary := by
  apply not_mem_text
  intro c h
  rw [String.toList_append] at h
  rcases List.mem_append.mp h with h | h
  · have two : "--".toList = ['-', '-'] := by decide
    rw [two, List.mem_cons, List.mem_singleton, or_self] at h
    rw [h]
    decide
  · have range := range_of_isAlphanum (plain c h)
    change c.toNat < 0x80 ∧ c.toNat ≠ 13
    omega

include plain in
/-- The first part with a delimiter in it is cut short there; the parts up to it are read as they
are. -/
theorem readParts_frames (index : Nat) (parts : List (List UInt8)) :
    readParts boundary (frames boundary index parts) = some (named index parts) ↔
      ∀ part ∈ parts, ¬ delimiter boundary <:+: part := by
  have once : 13 ∉ 10 :: dashes boundary :=
    List.not_mem_cons_of_ne_of_not_mem (by decide) (not_mem_dashes plain)
  induction parts generalizing index with
  | nil =>
    rw [frames, readParts, if_pos rfl]
    simp [named]
  | cons part parts ih =>
    have whole : (part ++ delimiter boundary ++ frames boundary (index + 1) parts).dropInfix?
        (delimiter boundary) = some (part, frames boundary (index + 1) parts) ↔
          ¬ delimiter boundary <:+: part := by
      rw [delimiter_eq]
      exact dropInfix?_append_iff once
    have more : frames boundary index (part :: parts) ≠ text "--\r\n" := by
      rw [frames, lineEnd_eq]
      exact fun h => absurd (List.cons.inj h).1 (by decide)
    rw [List.forall_mem_cons]
    refine Iff.trans ?_ (and_congr whole (ih (index + 1)))
    rw [readParts_more more, frames, readPart_append, Option.bind_map, Option.bind_eq_some_iff]
    constructor
    -- the part that is read first has to be the one that was sent, and then so is what follows it
    · rintro ⟨⟨bytes, rest⟩, found, read⟩
      obtain ⟨parts', read, same⟩ := Option.map_eq_some_iff.mp read
      injection same with first others
      injection first with _ first
      subst first others
      have after := List.append_cancel_left (of_dropInfix? found)
      subst after
      exact ⟨found, read⟩
    · rintro ⟨found, read⟩
      refine ⟨_, found, ?_⟩
      simp [read, named]

include plain in
/-- The parts that are sent are read back, in their order and with their numbers, just if no part
contains a delimiter; whatever else stands in a part, also at its end, does not matter. -/
theorem read_multipart (parts : List (List UInt8)) :
    read boundary (Payload.multipart boundary parts).bytes = some (named 0 parts) ↔
      ∀ part ∈ parts, ¬ delimiter boundary <:+: part := by
  rw [Payload.multipart, encodeParts_eq, read, dropPrefix?_append, Option.bind_some]
  exact readParts_frames plain 0 parts

end Frame

theorem read_multipart_almost :
    let boundary := "0aB1cD2eF3gH4iJ5kL6mN7oP"
    let almost := text "\r\n--0aB1cD2eF3gH4iJ5kL6mN7o"
    let whole := text "\r\n--0aB1cD2eF3gH4iJ5kL6mN7oP"
    boundary.length = 24 ∧
      read boundary (Payload.multipart boundary [almost, []]).bytes =
        some [⟨"part0", almost⟩, ⟨"part1", []⟩] ∧
      read boundary (Payload.multipart boundary [whole, []]).bytes ≠
        some [⟨"part0", whole⟩, ⟨"part1", []⟩] := by
  have first : partName 0 = "part0" := by decide
  have second : partName 1 = "part1" := by decide
  have numbered (part : List UInt8) :
      named 0 [part, []] = [⟨"part0", part⟩, ⟨"part1", []⟩] := by
    rw [← first, ← second]
    rfl
  intro boundary almost whole
  have plain : ∀ c ∈ boundary.toList, c.isAlphanum := List.all_eq_true.mp (by decide)
  rw [← numbered, ← numbered, ne_eq, read_multipart plain, read_multipart plain]
  refine ⟨by decide, by decide +kernel, fun absent => ?_⟩
  exact absent whole List.mem_cons_self (by decide +kernel)

end HttpBridge.Multipart
