import HttpBridge.Proofs.Backends
import HttpBridge.Proofs.Enrichment
import HttpBridge.Proofs.Multipart
import HttpBridge.Proofs.Wire
/-!
Headers as they are sent. What is sent under a name are the values of all its spellings, while a
lookup finds those of one spelling; and a name without values is found, though nothing of it is
sent.
-/

namespace HttpBridge

namespace Header

variable {name : String}

def valuesOf (name : String) (fields : List (String × String)) : List String :=
  (fields.filter fun f => Text.sameName f.1 name).map (·.2)

theorem valuesOf_append (fields fields' : List (String × String)) :
    valuesOf name (fields ++ fields') = valuesOf name fields ++ valuesOf name fields' := by
  rw [valuesOf, List.filter_append, List.map_append, valuesOf, valuesOf]

theorem valuesOf_lower (fields : List (String × String)) :
    valuesOf name (fields.map lower) = valuesOf name fields := by
  have same : (fun f => Text.sameName f.1 name) ∘ lower = fun f => Text.sameName f.1 name :=
    funext fun f => Text.sameName_lowerAscii f.1 name
  rw [valuesOf, List.filter_map, List.map_map, same]
  rfl

theorem valuesOf_eq_nil {fields : List (String × String)}
    (other : ∀ f ∈ fields, Text.sameName f.1 name = false) : valuesOf name fields = [] := by
  have none : fields.filter (fun f => Text.sameName f.1 name) = [] :=
    List.filter_eq_nil_iff.mpr fun f member => by simp [other f member]
  rw [valuesOf, none, List.map_nil]

def Fine (h : String × String) : Prop :=
  isName h.1 = true ∧ isValue h.2 = true

instance (h : String × String) : Decidable (Fine h) :=
  inferInstanceAs (Decidable (isName h.1 = true ∧ isValue h.2 = true))

end Header

namespace Headers

variable {h : Headers} {name : String}

theorem valuesOf_fields : Header.valuesOf name h.fields = h.gathered name := by
  unfold Header.valuesOf fields gathered
  induction h.entries with
  | nil => rfl
  | cons e entries ih =>
    rw [List.flatMap_cons, List.filter_append, List.map_append, ih, List.filter_map, List.map_map,
      List.filter_cons]
    cases same : Text.sameName e.1 name with
    | true => simp [Function.comp_def, same]
    | false => simp [Function.comp_def, same]

/-- Says that a header is there, but has no value under any spelling. -/
def Hollow (h : Headers) (name : String) : Prop :=
  (∃ e, h.Spells name e) ∧ h.gathered name = []

theorem gathered_eq_nil : h.gathered name = [] ↔ ∀ e, h.Spells name e → e.2 = [] := by
  unfold gathered Spells
  simp only [List.flatMap_eq_nil_iff, List.mem_filter]

theorem gathered_eq_nil_of_missing (missing : ¬∃ e, h.Spells name e) : h.gathered name = [] :=
  gathered_eq_nil.mpr fun e there => absurd ⟨e, there⟩ missing

end Headers

def Url.Anonymous (u : Url) : Prop :=
  ∀ a, u.authority = some a → a.user = [] ∧ a.password = []

theorem Url.Anonymous.takeLogin {u : Url} (h : u.Anonymous) :
    Lenient.takeLogin u = (u, none) := by
  unfold Lenient.takeLogin
  split
  · rfl
  · rename_i a authority
    obtain ⟨user, password⟩ := h a authority
    have nobody : Utf8.decode? (percentDecode []) = some "" := Utf8.decode?_encode ""
    rw [user, password, nobody]
    rfl

namespace Implementation

variable {i : Implementation} {s built : Submission} {name : String}

def build : Implementation → Submission → Option Submission
  | .lenient, s => (Lenient.build s).toOption.map BuiltRequest.submission
  | .strict, s => (Strict.build s).toOption.map fun _ => s.lowered

def Reads : Implementation → String → Prop
  | .lenient, url => ∃ u, Url.read url = some u ∧ u.hasHost = true
  | .strict, url => ∃ t, Target.read url = .ok t

def loginName : String := "authorization"

/-- Says what a library makes of what it is handed: before the headers that it is handed may stand
one for a login in the address. -/
structure Makes (s built : Submission) (first : List (String × String)) : Prop where
  body : built.body = s.body
  headers : built.headers = first ++ s.headers.map Header.lower
  login : ∀ h ∈ first, h.1 = loginName
  anonymous : (∀ u, Url.read s.url = some u → u.Anonymous) → first = []

theorem makes_of_build (h : i.build s = some built) : ∃ first, Makes s built first := by
  cases i with
  | lenient =>
    obtain ⟨made, builds, rfl⟩ := Option.map_eq_some_iff.mp h
    unfold Lenient.build at builds
    split at builds
    · cases builds
    · rename_i u read
      split at builds
      · cases builds
      · split at builds
        · cases builds
        · dsimp only [Except.toOption] at builds
          cases builds
          refine ⟨_, rfl, rfl, ?_, ?_⟩
          · split
            · exact fun h member => List.mem_singleton.mp member ▸ rfl
            · exact List.forall_mem_nil _
          · -- without a login in the address nothing stands before the headers
            intro anonymous
            rw [(anonymous u read).takeLogin]
  | strict =>
    obtain ⟨target, -, rfl⟩ := Option.map_eq_some_iff.mp h
    exact ⟨[], rfl, rfl, List.forall_mem_nil _, fun _ => rfl⟩

theorem checkAll_of_fine {headers : List (String × String)} (fine : ∀ h ∈ headers, Header.Fine h) :
    headers.forM Strict.checkHeader = .ok () := by
  induction headers with
  | nil => rfl
  | cons h headers ih =>
    obtain ⟨⟨name, value⟩, fine⟩ := List.forall_mem_cons.mp fine
    have first : Strict.checkHeader h = .ok () := by
      rw [Strict.checkHeader, name, value]
      rfl
    rw [List.forM_eq_forM, List.forM_cons, first]
    exact ih fine

theorem build_of_fine (reads : i.Reads s.url) (fine : ∀ h ∈ s.headers, Header.Fine h) :
    ∃ built, i.build s = some built := by
  cases i with
  | lenient =>
    obtain ⟨u, read, host⟩ := reads
    have all : (s.headers.all fun h => Header.isName h.1 && Header.isValue h.2) = true :=
      List.all_eq_true.mpr fun h member => by
        rw [(fine h member).1, (fine h member).2, Bool.and_self]
    simp only [build, Lenient.build, read, host, all]
    exact ⟨_, rfl⟩
  | strict =>
    obtain ⟨t, read⟩ := reads
    have all : s.headers.forM Strict.checkHeader = .ok () := checkAll_of_fine fine
    simp only [build, Strict.build, read, all]
    exact ⟨_, rfl⟩

theorem spells_typeName (i : Implementation) :
    Text.sameName i.typeName contentTypeName = true := by
  cases i <;> decide

end Implementation

section Announced

variable {r : Request} {p : Payload} {typeName name type : String}

theorem valuesOf_sentHeaders (typed : Text.sameName typeName contentTypeName = true)
    (own : Text.sameName name contentTypeName = true →
      p.contentType = none ∨ r.hasHeader contentTypeName = true) :
    Header.valuesOf name (sentHeaders typeName r p) = r.headers.gathered name := by
  unfold sentHeaders
  split
  · rename_i type adds
    split
    · exact Headers.valuesOf_fields
    · rename_i missing
      have other : Text.sameName typeName name = false := by
        refine Bool.eq_false_iff.mpr fun same => ?_
        rcases own (Text.sameName_trans (Text.sameName_symm same) typed) with none | there
        · rw [none] at adds
          cases adds
        · exact missing there
      rw [Header.valuesOf_append, Headers.valuesOf_fields, Header.valuesOf_eq_nil, List.append_nil]
      exact fun f member => List.mem_singleton.mp member ▸ other
  · exact Headers.valuesOf_fields

theorem valuesOf_sentHeaders_added (typed : Text.sameName typeName contentTypeName = true)
    (adds : p.contentType = some type) (missing : ¬∃ e, r.headers.Spells contentTypeName e) :
    Header.valuesOf contentTypeName (sentHeaders typeName r p) = [type] := by
  have absent : ¬r.hasHeader contentTypeName = true := fun there =>
    missing (Request.hasHeader_iff.mp there)
  have none := Headers.gathered_eq_nil_of_missing missing
  have only : Header.valuesOf contentTypeName [(typeName, type)] = [type] := by
    simp [Header.valuesOf, typed]
  simp only [sentHeaders, adds, if_neg absent]
  rw [Header.valuesOf_append, Headers.valuesOf_fields, none, only, List.nil_append]

end Announced

namespace Payload

variable {boundary : String} {b : Body}

theorem contentType_ofBody_eq_none :
    (ofBody boundary b).value.contentType = none ↔ b.type = .string := by
  unfold ofBody
  cases type : b.type <;> simp [multipart]

theorem isValue_contentType (drawn : ∀ c ∈ boundary.toList, c.isAlphanum = true) {type : String}
    (h : (ofBody boundary b).value.contentType = some type) : Header.isValue type = true := by
  unfold ofBody at h
  cases counts : b.type with
  | string =>
    rw [counts] at h
    cases h
  | form =>
    rw [counts] at h
    cases h
    decide
  | byteArray =>
    rw [counts] at h
    cases h
    decide
  | multipart =>
    rw [counts] at h
    cases h
    -- the boundary is the only part that is not fixed, and it is letters and digits
    have start : Header.isValue "multipart/form-data; boundary=" = true := by decide
    rw [Header.isValue, String.toList_append, List.all_append, Bool.and_eq_true]
    refine ⟨start, List.all_eq_true.mpr fun c member => ?_⟩
    have range := Multipart.range_of_isAlphanum (drawn c member)
    have printed : ' ' ≤ c := UInt32.le_iff_toNat_le.mpr (Nat.le_trans (by decide) range.1)
    have plain : c ≠ '\x7f' := by
      rintro rfl
      exact absurd range.2 (by decide)
    simp [printed, plain]

end Payload

section Built

variable {i : Implementation} {r : Request} {boundary name : String} {built : Submission}

theorem handed_fine (drawn : ∀ c ∈ boundary.toList, c.isAlphanum = true)
    (fine : ∀ h ∈ r.headers.fields, Header.Fine h) :
    ∀ h ∈ (i.handed boundary r).headers, Header.Fine h := by
  change ∀ h ∈ sentHeaders i.typeName r (Payload.ofBody boundary r.body).value, Header.Fine h
  unfold sentHeaders
  split
  · rename_i type adds
    split
    · exact fine
    · intro h member
      rcases List.mem_append.mp member with own | added
      · exact fine h own
      · rw [List.mem_singleton.mp added]
        have isName : Header.isName i.typeName = true := by cases i <;> decide
        exact ⟨isName, Payload.isValue_contentType drawn adds⟩
  · exact fine

theorem valuesOf_built (h : i.build (i.handed boundary r) = some built)
    (apart : Text.sameName Implementation.loginName name = false ∨
      ∀ u, Url.read r.url = some u → u.Anonymous) :
    Header.valuesOf name built.headers =
      Header.valuesOf name (sentHeaders i.typeName r (Payload.ofBody boundary r.body).value) := by
  obtain ⟨first, makes⟩ := Implementation.makes_of_build h
  have quiet : Header.valuesOf name first = [] := by
    rcases apart with other | anonymous
    · exact Header.valuesOf_eq_nil fun f member => by rw [makes.login f member, other]
    · rw [makes.anonymous anonymous]
      rfl
  rw [makes.headers, Header.valuesOf_append, quiet, Header.valuesOf_lower, List.nil_append]
  rfl

end Built

namespace Request

section Sent

variable (i : Implementation) (r : Request) {boundary : String}
  (drawn : ∀ c ∈ boundary.toList, c.isAlphanum = true) (reads : i.Reads r.url)
  (fine : ∀ h ∈ r.headers.fields, Header.Fine h)

include drawn reads fine

theorem build_handed : ∃ built, i.build (i.handed boundary r) = some built :=
  Implementation.build_of_fine (s := i.handed boundary r) reads (handed_fine drawn fine)

/-- A body that is no plain text is sent with content types: all those of the request if it has any,
and the one for the body, with the boundary that the body is written with, if the request has no
header of that name. Nothing says what the body is just if the request has the header without a
value. -/
theorem announces_type (typed : r.bodyType ≠ .string) :
    ∃ built type, i.build (i.handed boundary r) = some built ∧
      (Payload.ofBody boundary r.body).value = ⟨some type, built.body⟩ ∧
      (r.bodyType = .multipart → type = "multipart/form-data; boundary=" ++ boundary ∧
        built.body = Payload.encodeParts boundary 0 r.body.asParts.value) ∧
      ((∃ e, r.headers.Spells contentTypeName e) →
        Header.valuesOf contentTypeName built.headers = r.headers.gathered contentTypeName) ∧
      ((¬∃ e, r.headers.Spells contentTypeName e) →
        Header.valuesOf contentTypeName built.headers = [type]) ∧
      (Header.valuesOf contentTypeName built.headers = [] ↔ r.headers.Hollow contentTypeName) := by
  obtain ⟨built, builds⟩ := build_handed i r drawn reads fine
  obtain ⟨_, makes⟩ := Implementation.makes_of_build builds
  have typed : (Payload.ofBody boundary r.body).value.contentType ≠ none :=
    mt Payload.contentType_ofBody_eq_none.mp typed
  obtain ⟨type, adds⟩ := Option.ne_none_iff_exists'.mp typed
  -- a login adds no content type, so what goes out is what the library was handed
  have sent : Header.valuesOf contentTypeName built.headers = Header.valuesOf contentTypeName
      (sentHeaders i.typeName r (Payload.ofBody boundary r.body).value) :=
    valuesOf_built builds (.inl (by decide))
  have own (there : ∃ e, r.headers.Spells contentTypeName e) :
      Header.valuesOf contentTypeName built.headers = r.headers.gathered contentTypeName :=
    sent.trans <| valuesOf_sentHeaders (Implementation.spells_typeName i) fun _ =>
      .inr (hasHeader_iff.mpr there)
  have added (missing : ¬∃ e, r.headers.Spells contentTypeName e) :
      Header.valuesOf contentTypeName built.headers = [type] :=
    sent.trans <| valuesOf_sentHeaders_added (Implementation.spells_typeName i) adds missing
  have payload : (Payload.ofBody boundary r.body).value = ⟨some type, built.body⟩ := by
    rw [← adds, makes.body]
    rfl
  refine ⟨built, type, builds, payload, fun parts => ?_, own, added, ?_⟩
  · have parts : r.body.type = .multipart := parts
    rw [Payload.ofBody, parts] at payload
    obtain ⟨same, bytes⟩ := Payload.mk.inj payload
    exact ⟨(Option.some.inj same).symm, bytes.symm⟩
  · by_cases there : ∃ e, r.headers.Spells contentTypeName e
    · rw [own there, Headers.Hollow, and_iff_right there]
    · rw [added there, Headers.Hollow]
      simp [there]

end Sent

theorem reads_plain (i : Implementation) : i.Reads "http://a" := by
  cases i with
  | lenient =>
    have read : (Url.read "http://a").any Url.hasHost = true := by decide +kernel
    exact (Option.any_eq_true ..).mp read
  | strict => exact ⟨⟨some "http", "a", "", none⟩, by decide +kernel⟩

def partRequest : Request :=
  (Request.new "http://a" .post).withParts [[0]]

theorem announces_type_parts : ∃ built,
    Implementation.build .strict (Implementation.handed .strict "b" partRequest) = some built ∧
      Header.valuesOf contentTypeName built.headers = ["multipart/form-data; boundary=b"] := by
  have missing : ¬∃ e, partRequest.headers.Spells contentTypeName e := by
    rintro ⟨_, member, -⟩
    cases member
  have drawn : ∀ c ∈ "b".toList, c.isAlphanum = true := List.all_eq_true.mp (by decide)
  obtain ⟨built, type, builds, -, parts, -, added, -⟩ := announces_type .strict partRequest drawn
    (reads_plain .strict) (List.forall_mem_nil _) (by decide)
  refine ⟨built, builds, ?_⟩
  rw [added missing, (parts rfl).1]
  decide

def hollowForm : Request :=
  ((Request.new "http://a" .post).withForm (.ofList [("k", "v")])).withHeaders
    (.ofList [("content-type", [])])

/-- Where the content type has no value, none is sent, though the form would have one. -/
theorem announces_type_hollow :
    hollowForm.bodyType = .form ∧ decode hollowForm.text = .ok hollowForm ∧
      (Payload.ofBody "b" hollowForm.body).value.contentType =
        some "application/x-www-form-urlencoded" ∧
      (Implementation.build .lenient (Implementation.handed .lenient "b" hollowForm)).map
        (·.headers) = some [] ∧
      (Implementation.build .strict (Implementation.handed .strict "b" hollowForm)).map
        (·.headers) = some [] :=
  ⟨rfl, decode_text hollowForm, by decide +kernel, by decide +kernel, by decide +kernel⟩

end Request

end HttpBridge
