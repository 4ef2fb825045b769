import HttpBridge.Proofs.Base64
import HttpBridge.Proofs.Edits
import Mathlib.Data.List.Forall2

namespace HttpBridge

namespace Body

/-- Says which bytes a block stands for: those that it is written for, and none if there are no such
bytes. -/
def Block (text : String) (bytes : List UInt8) : Prop :=
  text = Base64.encode bytes ∨ bytes = [] ∧ ∀ other, text ≠ Base64.encode other

theorem decodeBlock_encode (bytes : List UInt8) :
    decodeBlock (Base64.encode bytes) = pure bytes := by
  rw [decodeBlock, Base64.decode_eq_ok.mpr rfl]

theorem block_decodeBlock (text : String) : Block text (decodeBlock text).value := by
  rw [decodeBlock]
  cases read : Base64.decode text with
  | ok bytes => exact .inl (Base64.decode_eq_ok.mp read)
  | error f =>
    refine .inr ⟨rfl, fun other same => ?_⟩
    rw [Base64.decode_eq_ok.mpr same] at read
    cases read

variable (b : Body)

theorem asString_withString (text : String) : (b.withString text).asString = text := rfl

theorem asForm_withForm (fields : Dict String) : (b.withForm fields).asForm = fields := rfl

theorem asBytes_withBytes (bytes : List UInt8) : (b.withBytes bytes).asBytes = pure bytes :=
  decodeBlock_encode bytes

theorem asParts_withParts (parts : List (List UInt8)) :
    (b.withParts parts).asParts = pure parts := by
  change (parts.map Base64.encode).mapM decodeBlock = pure parts
  rw [List.mapM_map]
  have each : decodeBlock ∘ Base64.encode = pure := funext decodeBlock_encode
  rw [each]
  exact List.mapM_pure.trans (congrArg pure (List.map_id parts))

theorem block_asBytes : Block b.byteArray b.asBytes.value := by
  unfold asBytes
  split
  · exact block_decodeBlock b.byteArray
  · rename_i other
    exact .inl (b.single .byteArray (Ne.symm other))

theorem blocks_asParts : List.Forall₂ Block b.multipart b.asParts.value := by
  unfold asParts
  split
  · rw [Logged.value_mapM, List.forall₂_map_right_iff]
    exact List.forall₂_same.mpr fun text _ => block_decodeBlock text
  · rename_i other
    have blank : b.multipart = [] := b.single .multipart (Ne.symm other)
    rw [blank]
    exact .nil

end Body

namespace Request

variable (r : Request)

def ReadBack (P : Body → Prop) : Prop :=
  ∃ s r', r.serialize = .ok s ∧ decode s = .ok r' ∧ P r'.body

theorem readBack {P : Body → Prop} (h : P r.body) : r.ReadBack P := by
  obtain ⟨s, serialize, read⟩ := (undoes r).decode
  exact ⟨s, r, serialize, read, h⟩

variable {r}

theorem stored_fieldsOf {s : String} (h : decode s = .ok r) :
    (r.bodyType = .byteArray → r.body.byteArray = (fieldsOf s).byteArray.getD "") ∧
      (r.bodyType = .multipart → r.body.multipart = (fieldsOf s).multipart.getD []) := by
  obtain ⟨w, read, same⟩ := decode_eq_ok.mp h
  rw [← request_written r, Written.request_inj] at same
  obtain ⟨-, -, -, type, -, -, byteArray, multipart⟩ := same
  obtain ⟨-, -, -, -, -, byteArray', multipart', -⟩ :=
    Draft.finish_eq_ok.mp (finish_fieldsOf read)
  constructor
  · intro active
    exact (byteArray (type.trans active)).symm.trans byteArray'.symm
  · intro active
    exact (multipart (type.trans active)).symm.trans multipart'.symm

/-- Whatever body a request is given is the one that is read from its text, and nothing is logged
about it. Of the blocks in any text that is read as a request, each stands for its own bytes,
as many as there are blocks and in their order. -/
theorem body_read_back :
    (∀ (r : Request) (text : String), (r.withString text).ReadBack (·.asString = text)) ∧
      (∀ (r : Request) (fields : Dict String),
        (r.withForm fields).ReadBack (·.asForm = fields)) ∧
      (∀ (r : Request) (bytes : List UInt8),
        (r.withBytes bytes).ReadBack (·.asBytes = pure bytes)) ∧
      (∀ (r : Request) (parts : List (List UInt8)),
        (r.withParts parts).ReadBack (·.asParts = pure parts)) ∧
      ∀ (s : String) (r : Request), decode s = .ok r →
        Body.Block r.body.byteArray r.body.asBytes.value ∧
          List.Forall₂ Body.Block r.body.multipart r.body.asParts.value ∧
          (r.bodyType = .byteArray → r.body.byteArray = (fieldsOf s).byteArray.getD "") ∧
          (r.bodyType = .multipart → r.body.multipart = (fieldsOf s).multipart.getD []) := by
  refine ⟨fun r text => ?_, fun r fields => ?_, fun r bytes => ?_, fun r parts => ?_, ?_⟩
  · exact readBack _ (r.body.asString_withString text)
  · exact readBack _ (r.body.asForm_withForm fields)
  · exact readBack _ (r.body.asBytes_withBytes bytes)
  · exact readBack _ (r.body.asParts_withParts parts)
  · intro s r h
    exact ⟨r.body.block_asBytes, r.body.blocks_asParts, stored_fieldsOf h⟩

theorem body_read_back_damaged :
    let blocks := ["QQ==", "QQ", "QR==", "Qg=="]
    let w : Written := ⟨"https://acme.com", ∅, .post, "", ∅, "", blocks, .multipart⟩
    ∃ s, w.data.serialize = .ok s ∧ decode s = .ok w.request ∧
      List.Forall₂ Body.Block blocks w.request.body.asParts.value ∧
      w.request.body.asParts.value = [[0x41], [], [], [0x42]] := by
  intro blocks w
  obtain ⟨s, serialize, read⟩ := (Written.undoes w).decode
  have decoded := decode_eq_ok.mpr ⟨w, read, rfl⟩
  exact ⟨s, serialize, decoded, (body_read_back.2.2.2.2 s _ decoded).2.1, by decide⟩

end Request

end HttpBridge
