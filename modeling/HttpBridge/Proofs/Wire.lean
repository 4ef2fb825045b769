import HttpBridge.Message.Wire
import HttpBridge.Proofs.Json.Reading
import HttpBridge.Proofs.Json.Shape
import HttpBridge.Proofs.Time

namespace HttpBridge

open Json (Data Fault Reads Undoes)

theorem undoes_headers : Undoes Headers.reader Headers.data :=
  Json.undoes_texts.dict

theorem undoes_enumeration {α : Type} {known : List (String × α)} {name : α → String}
    (h : ∀ a, known.lookup (name a) = some a) :
    Undoes (Json.enumeration known) fun a => .text (name a) := by
  intro a
  refine ⟨.text (name a), rfl, trivial, ?_⟩
  change Json.variant known (.text ⟨.ok (name a), none⟩) = _
  simp only [Json.variant, Json.textAs, bind, Except.bind, h a]

theorem undoes_method : Undoes Method.reader fun m => .text m.name :=
  undoes_enumeration fun m => by cases m <;> decide

theorem undoes_bodyType : Undoes BodyType.reader fun t => .text t.name :=
  undoes_enumeration fun t => by cases t <;> decide

theorem undoes_integer {α : Type} {name : String} {r : Decimal.Range} {write : α → Int}
    {read : Int → α} (low : -((1 <<< 63 : Nat) : Int) ≤ r.low) (high : r.high < UInt64.size)
    (holds : ∀ a, r.holds (write a) = true) (inverse : ∀ a, read (write a) = a) :
    Undoes (fun n => (Json.integer name r n).map read) fun a => .integer (write a) := by
  intro a
  have range := holds a
  simp only [Decimal.Range.holds, Bool.and_eq_true, decide_eq_true_eq] at range
  refine ⟨.integer (write a), rfl, ⟨Int.le_trans low range.1, Int.lt_of_le_of_lt range.2 high⟩, ?_⟩
  change Except.map read (if r.holds (write a) then Except.ok (write a) else _) = _
  rw [if_pos (holds a), Except.map, inverse]

theorem undoes_int32 : Undoes int32 fun n => .integer n.toInt := by
  apply undoes_integer (by decide) (by decide) _ Int32.ofInt_toInt
  intro n
  have low := n.le_toInt
  have high := n.toInt_lt
  have : Decimal.Range.signed 32 = ⟨-2147483648, 2147483647⟩ := rfl
  simp only [this, Decimal.Range.holds, Bool.and_eq_true, decide_eq_true_eq]
  omega

theorem undoes_uint32 : Undoes uint32 fun n => .integer n.toNat := by
  apply undoes_integer (by decide) (by decide) _ fun n => UInt32.ofNat_toNat
  intro n
  have high := n.toNat_lt
  have : Decimal.Range.unsigned 32 = ⟨0, 4294967295⟩ := rfl
  simp only [this, Decimal.Range.holds, Bool.and_eq_true, decide_eq_true_eq]
  omega

theorem undoes_uint64 : Undoes uint64 fun n => .integer n.toNat := by
  apply undoes_integer (by decide) (by decide) _ fun n => UInt64.ofNat_toNat
  intro n
  have high := n.toNat_lt
  have : Decimal.Range.unsigned 64 = ⟨0, 18446744073709551615⟩ := rfl
  simp only [this, Decimal.Range.holds, Bool.and_eq_true, decide_eq_true_eq]
  omega

theorem reads_moment (m : Time.Moment) : Reads moment (.text m.render) m.asRead := by
  refine ⟨.text m.render, rfl, trivial, ?_⟩
  simp [moment, Json.Value.tree, Json.textAs, Time.read_render, bind, Except.bind]

theorem regular_of_moment {n : Json.Node} {m : Time.Moment} (h : moment n = .ok m) :
    m.Regular := by
  unfold moment at h
  obtain ⟨s, -, h⟩ := bind_eq_ok.mp h
  split at h
  · rename_i read
    cases h
    exact Time.regular_of_read read
  · cases h

namespace Response

theorem undoes : Undoes reader data := by
  intro r
  apply Json.Shape.Fills.reads
  · apply Json.Shape.Fills.next (undoes_int32 r.status) rfl rfl
    apply Json.Shape.Fills.next (Json.undoes_text r.message) rfl rfl
    apply Json.Shape.Fills.next (undoes_headers r.headers) rfl rfl
    apply Json.Shape.Fills.next (Json.undoes_text r.body) rfl rfl
    exact .nil
  · rfl

end Response

namespace Request

theorem request_written (r : Request) : r.written.request = r := by
  obtain ⟨url, headers, method, ⟨⟨type, string, form, byteArray, multipart⟩, single⟩⟩ := r
  -- only the body of the type that counts is read back, and `single` says that the others are empty
  have string' := single .string
  have form' := single .form
  have byteArray' := single .byteArray
  have multipart' := single .multipart
  cases type with
  | string =>
    cases form' nofun
    cases byteArray' nofun
    cases multipart' nofun
    rfl
  | form =>
    cases string' nofun
    cases byteArray' nofun
    cases multipart' nofun
    rfl
  | byteArray =>
    cases string' nofun
    cases form' nofun
    cases multipart' nofun
    rfl
  | multipart =>
    cases string' nofun
    cases form' nofun
    cases byteArray' nofun
    rfl

theorem Written.undoes : Undoes shape.reader Written.data := by
  intro w
  apply Json.Shape.Fills.reads
  · apply Json.Shape.Fills.next (Json.undoes_text w.url) rfl rfl
    apply Json.Shape.Fills.next (undoes_headers w.headers) rfl rfl
    apply Json.Shape.Fills.next (undoes_method w.method) rfl rfl
    apply Json.Shape.Fills.next (Json.undoes_text w.string) rfl rfl
    apply Json.Shape.Fills.next (Json.undoes_text.dict w.form) rfl rfl
    apply Json.Shape.Fills.next (Json.undoes_text w.byteArray) rfl rfl
    apply Json.Shape.Fills.next (Json.undoes_texts w.multipart) rfl rfl
    apply Json.Shape.Fills.next (undoes_bodyType w.bodyType) rfl rfl
    exact .nil
  · rfl

theorem undoes : Undoes reader data := by
  intro r
  obtain ⟨v, value, fits, reads⟩ := Written.undoes r.written
  refine ⟨v, value, fits, ?_⟩
  rw [reader, reads, Except.map, request_written]

def text (r : Request) : String :=
  r.serialize.toOption.getD ""

theorem decode_text (r : Request) : decode r.text = .ok r :=
  (undoes r).text.2

end Request

namespace Exchange

def asRead (e : Exchange) : Exchange :=
  { e with moment := e.moment.asRead }

theorem asRead_eq_self_iff {e : Exchange} : e.asRead = e ↔ e.moment.Regular := by
  rw [← Time.Moment.asRead_eq_self_iff]
  constructor
  · exact congrArg Exchange.moment
  · intro same
    rw [asRead, same]

theorem millis_ofMillis (ms : UInt64) :
    .ofNat (min (Time.Duration.ofMillis ms).millis (UInt64.size - 1)) = ms := by
  have high := ms.toNat_lt
  have whole : (Time.Duration.ofMillis ms).millis = ms.toNat :=
    Nat.mul_div_cancel _ (by decide)
  have low : min ms.toNat (UInt64.size - 1) = ms.toNat := by
    simp only [UInt64.size]
    omega
  rw [whole, low, UInt64.ofNat_toNat]

theorem exchange_written (e : Exchange) : e.written.exchange = .ok e := by
  rw [Written.exchange, ExchangeDraft.build_eq_ok]
  exact ⟨rfl, rfl, (millis_ofMillis e.millis).symm, rfl, rfl, rfl⟩

theorem Written.reads (w : Written) :
    Reads shape.reader w.data { w with moment := w.moment.asRead } := by
  apply Json.Shape.Fills.reads
  · apply Json.Shape.Fills.next (Request.undoes w.request) rfl rfl
    apply Json.Shape.Fills.next (Response.undoes w.response) rfl rfl
    apply Json.Shape.Fills.next (undoes_uint64 w.millis) rfl rfl
    apply Json.Shape.Fills.next (reads_moment w.moment) rfl rfl
    apply Json.Shape.Fills.next (undoes_uint32 w.attempts) rfl rfl
    apply Json.Shape.Fills.next (Json.undoes_boolean w.success) rfl rfl
    exact .nil
  · rfl

theorem holds_moment : Json.Holds shape.fields "moment" (·.moment) HttpBridge.moment := by
  repeat' first
    | exact .nil
    | refine .own_cons (fun _ _ => rfl) ?_
    | refine .other_cons (by decide) (fun _ _ => rfl) ?_

theorem Draft.moment_of_finish {d : Draft} {w : Written} (h : d.finish = .ok w) :
    d.moment = some w.moment := by
  obtain ⟨request, response, millis, moment, attempts, success⟩ := d
  unfold finish at h
  obtain ⟨_, -, h⟩ := bind_eq_ok.mp h
  obtain ⟨_, -, h⟩ := bind_eq_ok.mp h
  obtain ⟨_, -, h⟩ := bind_eq_ok.mp h
  obtain ⟨known, required, h⟩ := bind_eq_ok.mp h
  obtain ⟨_, -, h⟩ := bind_eq_ok.mp h
  obtain ⟨_, -, h⟩ := bind_eq_ok.mp h
  cases h
  cases moment with
  | none => cases required
  | some m =>
    cases required
    rfl

theorem Written.regular_of_decode {s : String} {w : Written}
    (h : Json.decode shape.reader s = .ok w) : w.moment.Regular := by
  have root := (Json.decode_eq_ok.mp h).1
  rw [Json.Shape.reader_eq_bind] at root
  obtain ⟨d, draft, finish⟩ := bind_eq_ok.mp root
  have part := Json.Shape.draft_part holds_moment (by decide) (by decide) rfl draft
  rw [Draft.moment_of_finish finish] at part
  obtain ⟨n, -, reads⟩ := Option.bind_eq_some_iff.mp part.symm
  cases read : HttpBridge.moment n with
  | error f => simp [read, Except.toOption] at reads
  | ok m =>
    obtain rfl : m = w.moment := by simpa [read, Except.toOption] using reads
    exact regular_of_moment read

def Written.accept (w : Written) : Except Fault Exchange :=
  match w.exchange with
  | .ok e => .ok e
  | .error f => .error (.mismatch (.rejected f.message))

theorem Written.accept_eq_ok {w : Written} {e : Exchange} : w.accept = .ok e ↔ w = e.written := by
  constructor
  · intro h
    cases he : w.exchange with
    | error f => simp [accept, he] at h
    | ok e' =>
      simp only [accept, he, Except.ok.injEq] at h
      subst h
      rw [exchange, ExchangeDraft.build_eq_ok] at he
      obtain ⟨request, response, millis, moment, attempts, success⟩ := he
      rw [millis_ofMillis] at millis
      obtain ⟨_, _, _, _, _, _⟩ := w
      simp_all [Exchange.written]
  · rintro rfl
    simp only [accept, exchange_written]

theorem Written.accept_negative {w : Written} (h : w.response.status < 0) :
    w.accept = .error (.mismatch (.rejected
      (ExchangeFault.negativeStatus w.response.status).message)) := by
  have refused : ¬ 0 ≤ w.response.status := Int32.not_le.mpr h
  simp [accept, exchange, ExchangeDraft.build, refused]

theorem reads (e : Exchange) : Reads reader e.data e.asRead := by
  obtain ⟨v, value, fits, reads⟩ := e.written.reads
  refine ⟨v, value, fits, ?_⟩
  have accepted : Written.accept { e.written with moment := e.moment.asRead } = .ok e.asRead :=
    Written.accept_eq_ok.mpr rfl
  change (shape.reader v.tree >>= Written.accept) = _
  rw [reads]
  exact accepted

def text (e : Exchange) : String :=
  e.serialize.toOption.getD ""

theorem serialize_eq (e : Exchange) : e.serialize = .ok e.text :=
  e.reads.text.1

theorem decode_text (e : Exchange) : decode e.text = .ok e.asRead :=
  e.reads.text.2

theorem decode_text_of_regular {e : Exchange} (h : e.moment.Regular) : decode e.text = .ok e := by
  rw [decode_text, asRead_eq_self_iff.mpr h]

theorem decode_eq_ok {s : String} {e : Exchange} :
    decode s = .ok e ↔ Json.decode shape.reader s = .ok e.written := by
  have bind : decode s = .ok e ↔ ∃ w, Json.decode shape.reader s = .ok w ∧ w.accept = .ok e :=
    Json.decode_bind_eq_ok
  simp [bind, Written.accept_eq_ok]

theorem decode_negative {s : String} {w : Written} (h : Json.decode shape.reader s = .ok w)
    (negative : w.response.status < 0) :
    decode s = .error (.mismatch (.rejected
      (ExchangeFault.negativeStatus w.response.status).message)) :=
  (Json.decode_bind Written.accept h).trans (Written.accept_negative negative)

/-- Every exchange has a text, and is read from it as it was unless its moment is a leap second within
a minute; then the moment that is read is the second after. What is read from any text has no such
moment, and is the record in it, with a status that is not negative and with no body but that of the
type that counts. Where the record is in order but for a negative status, that is what the text is
refused for. -/
theorem text_read_back :
    (∀ e : Exchange, ∃ s, e.serialize = .ok s ∧ decode s = .ok e.asRead ∧
        (decode s = .ok e ↔ e.moment.Regular)) ∧
      (∀ s e, decode s = .ok e → e.moment.Regular ∧ Json.decode shape.reader s = .ok e.written ∧
        0 ≤ e.response.status ∧ ∀ t, t ≠ e.request.bodyType → e.request.body.Blank t) ∧
      ∀ s w, Json.decode shape.reader s = .ok w → w.response.status < 0 →
        decode s = .error (.mismatch (.rejected
          (ExchangeFault.negativeStatus w.response.status).message)) := by
  refine ⟨fun e => ⟨e.text, e.serialize_eq, e.decode_text, ?_⟩, fun s e h => ?_,
    fun s w h => decode_negative h⟩
  · rw [decode_text, Except.ok.injEq, asRead_eq_self_iff]
  · have record := decode_eq_ok.mp h
    exact ⟨Written.regular_of_decode record, record, e.accepted, e.request.body.single⟩

theorem text_read_back_negative :
    let w : Written := ⟨.get "https://acme.com", .new (-1) "", 0, .epoch, 1, false⟩
    ∃ s, w.data.serialize = .ok s ∧ decode s = .error (.mismatch (.rejected
      "response status code must be >= 0, got -1")) := by
  intro w
  obtain ⟨s, serialize, read⟩ := w.reads.decode
  exact ⟨s, serialize, text_read_back.2.2 s _ read (by decide)⟩

def leapWithinMinute : Time.Moment :=
  ⟨⟨2024, 2, 29, by decide⟩, ⟨23, 56, 4, 1333333333, by decide⟩⟩

/-- An exchange at that moment is read back at second 5. -/
theorem leap_within_minute_lost :
    let e : Exchange := ⟨.get "http://a", .new 200 "", 0, leapWithinMinute, 1, true, by decide⟩
    e.moment.render = "2024-02-29T23:56:05.333333333Z" ∧
      ¬ ∃ s, e.serialize = .ok s ∧ decode s = .ok e := by
  intro e
  refine ⟨by decide, ?_⟩
  rintro ⟨s, serialize, read⟩
  obtain rfl : e.text = s := Except.ok.inj (e.serialize_eq.symm.trans serialize)
  rw [decode_text, Except.ok.injEq, asRead_eq_self_iff] at read
  exact absurd read (by decide)

end Exchange

end HttpBridge
