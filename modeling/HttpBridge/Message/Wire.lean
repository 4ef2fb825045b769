import HttpBridge.Json.Read
import HttpBridge.Json.Write
import HttpBridge.Message.Exchange
import HttpBridge.Time.Reading

namespace HttpBridge

open Json (Data Reader Field Flaw Shape Fault)

def Headers.data (h : Headers) : Data :=
  Json.ofDict Json.texts h

def Headers.reader : Reader Headers :=
  Json.dict (Json.list Json.text)

def Method.reader : Reader Method :=
  Json.enumeration Method.names

def BodyType.reader : Reader BodyType :=
  Json.enumeration BodyType.names

def int32 : Reader Int32 := fun n =>
  (Json.integer "i32" (.signed 32) n).map Int32.ofInt

def uint32 : Reader UInt32 := fun n =>
  (Json.integer "u32" (.unsigned 32) n).map fun k => .ofNat k.toNat

def uint64 : Reader UInt64 := fun n =>
  (Json.integer "u64" (.unsigned 64) n).map fun k => .ofNat k.toNat

namespace Request

structure Draft where
  url : Option String
  headers : Option Headers
  method : Option Method
  string : Option String
  form : Option (Dict String)
  byteArray : Option String
  multipart : Option (List String)
  bodyType : Option BodyType

/-- A request as it is written: it may hold a body of each type. -/
structure Written where
  url : String
  headers : Headers
  method : Method
  string : String
  form : Dict String
  byteArray : String
  multipart : List String
  bodyType : BodyType
  deriving DecidableEq

def Written.data (w : Written) : Data :=
  .record [
    ("url", .text w.url),
    ("headers", w.headers.data),
    ("method", .text w.method.name),
    ("bodyAsString", .text w.string),
    ("bodyAsForm", Json.ofDict .text w.form),
    ("bodyAsByteArray", .text w.byteArray),
    ("bodyAsMultipart", Json.texts w.multipart),
    ("bodyType", .text w.bodyType.name)]

def written (r : Request) : Written :=
  ⟨r.url, r.headers, r.method, r.body.string, r.body.form, r.body.byteArray, r.body.multipart,
    r.bodyType⟩

def data (r : Request) : Data :=
  r.written.data

def Draft.finish (d : Draft) : Except Fault Written := do
  let url ← Json.require "url" d.url
  let method ← Json.require "method" d.method
  let bodyType ← Json.require "bodyType" d.bodyType
  return ⟨url, d.headers.getD ∅, method, d.string.getD "", d.form.getD ∅, d.byteArray.getD "",
    d.multipart.getD [], bodyType⟩

def Written.request (w : Written) : Request :=
  let r := (new w.url w.method).withHeaders w.headers
  match w.bodyType with
  | .string => r.withString w.string
  | .form => r.withForm w.form
  | .byteArray => { r with body := r.body.withEncoded w.byteArray }
  | .multipart => { r with body := r.body.withEncodedParts w.multipart }

def shape : Shape Draft Written where
  name := "struct RequestRecord"
  blank := ⟨none, none, none, none, none, none, none, none⟩
  fields := [
    .of "url" false (·.url) (fun d a => { d with url := some a }) Json.text,
    .of "headers" true (·.headers) (fun d a => { d with headers := some a }) Headers.reader,
    .of "method" false (·.method) (fun d a => { d with method := some a }) Method.reader,
    .of "bodyAsString" true (·.string) (fun d a => { d with string := some a }) Json.text,
    .of "bodyAsForm" true (·.form) (fun d a => { d with form := some a }) (Json.dict Json.text),
    .of "bodyAsByteArray" true (·.byteArray) (fun d a => { d with byteArray := some a }) Json.text,
    .of "bodyAsMultipart" true (·.multipart) (fun d a => { d with multipart := some a })
      (Json.list Json.text),
    .of "bodyType" false (·.bodyType) (fun d a => { d with bodyType := some a }) BodyType.reader]
  finish := Draft.finish

def reader : Reader Request := fun n =>
  (shape.reader n).map Written.request

def decode (s : String) : Except Fault Request :=
  Json.decode reader s

def serialize (r : Request) : Except Flaw String :=
  r.data.serialize

end Request

namespace Response

def data (r : Response) : Data :=
  .record [
    ("statusCode", .integer r.status.toInt),
    ("statusMessage", .text r.message),
    ("headers", r.headers.data),
    ("body", .text r.body)]

structure Draft where
  status : Option Int32
  message : Option String
  headers : Option Headers
  body : Option String

def Draft.finish (d : Draft) : Except Fault Response := do
  let status ← Json.require "statusCode" d.status
  return ⟨status, d.message.getD "", d.headers.getD ∅, d.body.getD ""⟩

def shape : Shape Draft Response where
  name := "struct Response"
  blank := ⟨none, none, none, none⟩
  fields := [
    .of "statusCode" false (·.status) (fun d a => { d with status := some a }) int32,
    .of "statusMessage" true (·.message) (fun d a => { d with message := some a }) Json.text,
    .of "headers" true (·.headers) (fun d a => { d with headers := some a }) Headers.reader,
    .of "body" true (·.body) (fun d a => { d with body := some a }) Json.text]
  finish := Draft.finish

def reader : Reader Response :=
  shape.reader

def decode (s : String) : Except Fault Response :=
  Json.decode reader s

def serialize (r : Response) : Except Flaw String :=
  r.data.serialize

end Response

def moment : Reader Time.Moment := fun n => do
  match Time.read (← Json.textAs "an RFC 3339 formatted date and time string" n) with
  | .ok m => .ok m
  | .error f => .error (.mismatch (.rejected f.message))

namespace Exchange

structure Draft where
  request : Option Request
  response : Option Response
  millis : Option UInt64
  moment : Option Time.Moment
  attempts : Option UInt32
  success : Option Bool

/-- An exchange as it is written: it is not known yet whether it can be one. -/
structure Written where
  request : Request
  response : Response
  millis : UInt64
  moment : Time.Moment
  attempts : UInt32
  success : Bool
  deriving DecidableEq

def Written.data (w : Written) : Data :=
  .record [
    ("request", w.request.data),
    ("response", w.response.data),
    ("durationInMillis", .integer w.millis.toNat),
    ("moment", .text w.moment.render),
    ("attempts", .integer w.attempts.toNat),
    ("success", .boolean w.success)]

def written (e : Exchange) : Written :=
  ⟨e.request, e.response, e.millis, e.moment, e.attempts, e.success⟩

def data (e : Exchange) : Data :=
  e.written.data

def Draft.finish (d : Draft) : Except Fault Written := do
  let request ← Json.require "request" d.request
  let response ← Json.require "response" d.response
  let millis ← Json.require "durationInMillis" d.millis
  let moment ← Json.require "moment" d.moment
  let attempts ← Json.require "attempts" d.attempts
  let success ← Json.require "success" d.success
  return ⟨request, response, millis, moment, attempts, success⟩

def Written.exchange (w : Written) : Except ExchangeFault Exchange :=
  let draft : ExchangeDraft := {
    request := some w.request
    response := some w.response
    duration := .ofMillis w.millis
    moment := some w.moment
    attempts := w.attempts
    success := w.success }
  draft.build w.moment

def shape : Shape Draft Written where
  name := "struct ExchangeRecord"
  blank := ⟨none, none, none, none, none, none⟩
  fields := [
    .of "request" false (·.request) (fun d a => { d with request := some a }) Request.reader,
    .of "response" false (·.response) (fun d a => { d with response := some a }) Response.reader,
    .of "durationInMillis" false (·.millis) (fun d a => { d with millis := some a }) uint64,
    .of "moment" false (·.moment) (fun d a => { d with moment := some a }) HttpBridge.moment,
    .of "attempts" false (·.attempts) (fun d a => { d with attempts := some a }) uint32,
    .of "success" false (·.success) (fun d a => { d with success := some a }) Json.boolean]
  finish := Draft.finish

def reader : Reader Exchange := fun n => do
  match (← shape.reader n).exchange with
  | .ok e => .ok e
  | .error f => .error (.mismatch (.rejected f.message))

def decode (s : String) : Except Fault Exchange :=
  Json.decode reader s

def serialize (e : Exchange) : Except Flaw String :=
  e.data.serialize

end Exchange

end HttpBridge
