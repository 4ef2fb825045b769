import HttpBridge.Proofs.Json.Shape
import HttpBridge.Proofs.Wire

namespace HttpBridge.Request

open Json (Holds Shape)

inductive Origin
  | new (url : String) (method : Method)
  | get (url : String)
  | text (s : String)

def Origin.request : Origin → Except Json.Fault Request
  | .new url method => .ok (Request.new url method)
  | .get url => .ok (Request.get url)
  | .text s => decode s

inductive Edit
  | withHeaders (headers : Headers)
  | withHeader (name value : String)
  | headers (change : Headers → Headers)
  | withString (text : String)
  | withForm (fields : Dict String)
  | withBytes (bytes : List UInt8)
  | withParts (parts : List (List UInt8))

def edit (r : Request) : Edit → Request
  | .withHeaders headers => r.withHeaders headers
  | .withHeader name value => r.withHeader name value
  | .headers change => { r with headers := change r.headers }
  | .withString text => r.withString text
  | .withForm fields => r.withForm fields
  | .withBytes bytes => r.withBytes bytes
  | .withParts parts => r.withParts parts

def run (r : Request) (edits : List Edit) : Request :=
  edits.foldl edit r

def Edit.body? : Edit → Option Body
  | .withString text => some (Body.empty.withString text)
  | .withForm fields => some (Body.empty.withForm fields)
  | .withBytes bytes => some (Body.empty.withBytes bytes)
  | .withParts parts => some (Body.empty.withParts parts)
  | _ => none

theorem edit_body (r : Request) (e : Edit) : (r.edit e).body = e.body?.getD r.body := by
  cases e <;> rfl

theorem run_body (r : Request) (edits : List Edit) :
    (r.run edits).body = (edits.reverse.findSome? Edit.body?).getD r.body := by
  induction edits generalizing r with
  | nil => rfl
  | cons e edits ih =>
    change ((r.edit e).run edits).body = _
    rw [ih, List.reverse_cons, List.findSome?_append, edit_body]
    cases edits.reverse.findSome? Edit.body? with
    | some body => rfl
    | none => cases h : e.body? <;> simp [h]

structure OneBody (r : Request) : Prop where
  blank : ∀ t, t ≠ r.bodyType → r.body.Blank t
  asString : r.bodyType ≠ .string → r.body.asString = ""
  asForm : r.bodyType ≠ .form → r.body.asForm = ∅
  asBytes : r.bodyType ≠ .byteArray → r.body.asBytes = pure []
  asParts : r.bodyType ≠ .multipart → r.body.asParts = pure []

theorem oneBody (r : Request) : r.OneBody where
  blank := r.body.single
  asString h := if_neg h
  asForm h := if_neg h
  asBytes h := if_neg h
  asParts h := if_neg h

def Draft.of (n : Json.Node) : Draft where
  url := shape.part "url" Json.text n
  headers := shape.part "headers" Headers.reader n
  method := shape.part "method" Method.reader n
  string := shape.part "bodyAsString" Json.text n
  form := shape.part "bodyAsForm" (Json.dict Json.text) n
  byteArray := shape.part "bodyAsByteArray" Json.text n
  multipart := shape.part "bodyAsMultipart" (Json.list Json.text) n
  bodyType := shape.part "bodyType" BodyType.reader n

theorem holds :
    Holds shape.fields "url" (·.url) Json.text ∧
      Holds shape.fields "headers" (·.headers) Headers.reader ∧
      Holds shape.fields "method" (·.method) Method.reader ∧
      Holds shape.fields "bodyAsString" (·.string) Json.text ∧
      Holds shape.fields "bodyAsForm" (·.form) (Json.dict Json.text) ∧
      Holds shape.fields "bodyAsByteArray" (·.byteArray) Json.text ∧
      Holds shape.fields "bodyAsMultipart" (·.multipart) (Json.list Json.text) ∧
      Holds shape.fields "bodyType" (·.bodyType) BodyType.reader := by
  refine ⟨?_, ?_, ?_, ?_, ?_, ?_, ?_, ?_⟩
  all_goals
    repeat' first
      | exact .nil
      | refine .own_cons (fun _ _ => rfl) ?_
      | refine .other_cons (by decide) (fun _ _ => rfl) ?_

theorem draft_eq {n : Json.Node} {d : Draft} (h : shape.draft n = .ok d) : d = .of n := by
  have part {α : Type} {name : String} {get : Draft → Option α} {read : Json.Reader α}
      (holds : Holds shape.fields name get read) (named : name ∈ shape.fields.map (·.name))
      (blank : get shape.blank = none) : get d = shape.part name read n :=
    Shape.draft_part holds named (by decide) blank h
  obtain ⟨url, headers, method, string, form, byteArray, multipart, bodyType⟩ := holds
  have url := part url (by decide) rfl
  have headers := part headers (by decide) rfl
  have method := part method (by decide) rfl
  have string := part string (by decide) rfl
  have form := part form (by decide) rfl
  have byteArray := part byteArray (by decide) rfl
  have multipart := part multipart (by decide) rfl
  have bodyType := part bodyType (by decide) rfl
  rw [Draft.of, ← url, ← headers, ← method, ← string, ← form, ← byteArray, ← multipart, ← bodyType]

/-- Says that two readings differ at most in bodies that do not count. A field that may be left out
is the same as an empty one. -/
structure Draft.Agrees (d d' : Draft) : Prop where
  url : d.url = d'.url
  headers : d.headers.getD ∅ = d'.headers.getD ∅
  method : d.method = d'.method
  bodyType : d.bodyType = d'.bodyType
  string : d.bodyType = some .string → d.string.getD "" = d'.string.getD ""
  form : d.bodyType = some .form → d.form.getD ∅ = d'.form.getD ∅
  byteArray : d.bodyType = some .byteArray → d.byteArray.getD "" = d'.byteArray.getD ""
  multipart : d.bodyType = some .multipart → d.multipart.getD [] = d'.multipart.getD []

theorem Draft.finish_eq_ok {d : Draft} {w : Written} :
    d.finish = .ok w ↔ d.url = some w.url ∧ d.headers.getD ∅ = w.headers ∧
      d.method = some w.method ∧ d.string.getD "" = w.string ∧ d.form.getD ∅ = w.form ∧
      d.byteArray.getD "" = w.byteArray ∧ d.multipart.getD [] = w.multipart ∧
      d.bodyType = some w.bodyType := by
  obtain ⟨url, headers, method, string, form, byteArray, multipart, bodyType⟩ := d
  obtain ⟨_, _, _, _, _, _, _, _⟩ := w
  cases url with
  | none => simp [finish, Json.require, bind, Except.bind]
  | some url =>
    cases method with
    | none => simp [finish, Json.require, bind, Except.bind]
    | some method =>
      cases bodyType with
      | none => simp [finish, Json.require, bind, Except.bind]
      | some bodyType => simp [finish, Json.require, bind, Except.bind, pure, Except.pure]

theorem Written.request_inj {w w' : Written} :
    w.request = w'.request ↔ w.url = w'.url ∧ w.headers = w'.headers ∧ w.method = w'.method ∧
      w.bodyType = w'.bodyType ∧ (w.bodyType = .string → w.string = w'.string) ∧
      (w.bodyType = .form → w.form = w'.form) ∧
      (w.bodyType = .byteArray → w.byteArray = w'.byteArray) ∧
      (w.bodyType = .multipart → w.multipart = w'.multipart) := by
  obtain ⟨url, headers, method, string, form, byteArray, multipart, bodyType⟩ := w
  obtain ⟨url', headers', method', string', form', byteArray', multipart', bodyType'⟩ := w'
  cases bodyType <;> cases bodyType' <;>
    simp [request, new, Request.withHeaders, Request.withString, Request.withForm, Body.withString,
      Body.withForm, Body.withEncoded, Body.withEncodedParts, Body.Slots.withString,
      Body.Slots.withForm, Body.Slots.withEncoded, Body.Slots.withEncodedParts, Body.Slots.clear]

def fieldsOf (s : String) : Draft :=
  .of (Json.parse s).root

theorem decode_eq_ok {s : String} {r : Request} :
    decode s = .ok r ↔ ∃ w, Json.decode shape.reader s = .ok w ∧ w.request = r := by
  have bind : reader = fun n => shape.reader n >>= fun w => .ok w.request := by
    funext n
    rw [reader]
    cases shape.reader n <;> rfl
  rw [decode, bind, Json.decode_bind_eq_ok]
  simp

theorem finish_fieldsOf {s : String} {w : Written} (h : Json.decode shape.reader s = .ok w) :
    (fieldsOf s).finish = .ok w := by
  have root := (Json.decode_eq_ok.mp h).1
  rw [Shape.reader_eq_bind] at root
  obtain ⟨d, draft, finish⟩ := bind_eq_ok.mp root
  rw [fieldsOf, ← draft_eq draft]
  exact finish

theorem decode_eq_iff {s t : String} {r r' : Request} (hs : decode s = .ok r)
    (ht : decode t = .ok r') : r = r' ↔ (fieldsOf s).Agrees (fieldsOf t) := by
  obtain ⟨w, hw, rfl⟩ := decode_eq_ok.mp hs
  obtain ⟨w', hw', rfl⟩ := decode_eq_ok.mp ht
  obtain ⟨h₁, h₂, h₃, h₄, h₅, h₆, h₇, h₈⟩ := Draft.finish_eq_ok.mp (finish_fieldsOf hw)
  obtain ⟨k₁, k₂, k₃, k₄, k₅, k₆, k₇, k₈⟩ := Draft.finish_eq_ok.mp (finish_fieldsOf hw')
  rw [Written.request_inj]
  constructor
  · rintro ⟨url, headers, method, bodyType, string, form, byteArray, multipart⟩
    constructor
    all_goals simp_all
  · rintro ⟨url, headers, method, bodyType, string, form, byteArray, multipart⟩
    simp_all

/-- Whatever is done to a request, it holds the body that was given last and shows no other, and it
has a text and is read from it as it was. Texts are read as the same request whatever they hold for
the other bodies, and whether they leave a field out or have it empty. -/
theorem body_single :
    (∀ (o : Origin) (edits : List Edit) (r : Request), o.request = .ok r →
      (r.run edits).OneBody ∧
        (r.run edits).body = (edits.reverse.findSome? Edit.body?).getD r.body ∧
        ∃ s, (r.run edits).serialize = .ok s ∧ decode s = .ok (r.run edits)) ∧
      ∀ (s t : String) (r r' : Request), decode s = .ok r → decode t = .ok r' →
        (r = r' ↔ (fieldsOf s).Agrees (fieldsOf t)) := by
  refine ⟨fun o edits r _ => ?_, fun s t r r' => decode_eq_iff⟩
  exact ⟨oneBody _, run_body r edits, (undoes _).decode⟩

theorem body_single_switched :
    let fields : Dict String := Dict.ofList [("name", "value")]
    let w : Written := ⟨"https://acme.com", ∅, .get, "text", fields, "", [], .string⟩
    ((get w.url).run [.withForm fields, .withString "text"]).OneBody ∧
      ∃ s t, w.data.serialize = .ok s ∧ w.request.serialize = .ok t ∧
        (fieldsOf s).Agrees (fieldsOf t) := by
  intro fields w
  obtain ⟨s, hs, read⟩ := (Written.undoes w).decode
  obtain ⟨t, ht, again⟩ := (undoes w.request).decode
  refine ⟨(body_single.1 (.get w.url) [.withForm fields, .withString "text"] _ rfl).1,
    s, t, hs, ht, ?_⟩
  exact (body_single.2 _ _ _ _ (decode_eq_ok.mpr ⟨w, read, rfl⟩) again).mp rfl

end HttpBridge.Request
