import HttpBridge.Client.Payload
import HttpBridge.Proofs.Utf8
import HttpBridge.Text.Parts

namespace HttpBridge

namespace Form

def spaced (cs : List Char) : List Char :=
  cs.map fun c => if c = '+' then ' ' else c

def readText (cs : List Char) : Option String :=
  Utf8.decode? (Url.percentDecode (spaced cs))

def readPair (cs : List Char) : Option (String × String) := do
  let name ← readText (cs.takeWhile (· ≠ '='))
  let value ← readText ((cs.dropWhile (· ≠ '=')).drop 1)
  return (name, value)

def read (bs : List UInt8) : Option (List (String × String)) := do
  let s ← Utf8.decode? bs
  ((Text.splitWhere (· == '&') s.toList).filter (· ≠ [])).mapM readPair

def alphabet : List Char :=
  "%&=+*-._0123456789ABCDEFGHIJKLMNOPQRSTUVWXYZabcdefghijklmnopqrstuvwxyz".toList

theorem isPlain_mem {b : UInt8} (h : isPlain b) :
    Char.ofNat b.toNat ∈ alphabet ∧ Char.ofNat b.toNat ≠ '&' ∧ Char.ofNat b.toNat ≠ '=' := by
  -- a text is taken apart slowly by evaluation, and characters are compared slowly
  have spelled : alphabet = _ := String.toList_ofList
  have all : ∀ n < 256, isPlain (.ofNat n) →
      n ∈ alphabet.map Char.toNat ∧ Char.ofNat n ≠ '&' ∧ Char.ofNat n ≠ '=' := by
    rw [spelled]
    decide +kernel
  have here := all b.toNat b.toNat_lt
  rw [UInt8.ofNat_toNat] at here
  obtain ⟨member, apart⟩ := here h
  obtain ⟨c, known, same⟩ := List.mem_map.mp member
  rw [← same, Char.ofNat_toNat] at apart ⊢
  exact ⟨known, apart⟩

theorem hexCapital_mem (n : Nat) :
    Text.hexCapital n ∈ alphabet ∧ Text.hexCapital n ≠ '&' ∧ Text.hexCapital n ≠ '=' := by
  have spelled : alphabet = _ := String.toList_ofList
  have all : ∀ n < 16, (Nat.digitChar n).toUpper ∈ alphabet ∧
      (Nat.digitChar n).toUpper ≠ '&' ∧ (Nat.digitChar n).toUpper ≠ '=' := by
    rw [spelled]
    decide
  exact all (n % 16) (Nat.mod_lt n (by decide))

theorem mem_encodeByte {b : UInt8} {c : Char} (h : c ∈ encodeByte b) :
    c ∈ alphabet ∧ c ≠ '&' ∧ c ≠ '=' := by
  have spelled : alphabet = _ := String.toList_ofList
  have signs : '+' ∈ alphabet ∧ '%' ∈ alphabet := by
    rw [spelled]
    decide
  rw [encodeByte] at h
  split at h
  · rename_i plain
    rw [List.mem_singleton.mp h]
    exact isPlain_mem plain
  · split at h
    · rw [List.mem_singleton.mp h]
      exact ⟨signs.1, by decide, by decide⟩
    · simp only [Url.encodeByte, List.mem_cons, List.not_mem_nil, or_false] at h
      rcases h with rfl | rfl | rfl
      · exact ⟨signs.2, by decide, by decide⟩
      · exact hexCapital_mem _
      · exact hexCapital_mem _

theorem isPlain_spec {b : UInt8} (h : isPlain b) :
    String.utf8EncodeChar (.ofNat b.toNat) = [b] ∧ Char.ofNat b.toNat ≠ '+' ∧
      Char.ofNat b.toNat ≠ '%' := by
  have all : ∀ n < 256, isPlain (.ofNat n) → String.utf8EncodeChar (.ofNat n) = [.ofNat n] ∧
      Char.ofNat n ≠ '+' ∧ Char.ofNat n ≠ '%' := by
    decide +kernel
  have here := all b.toNat b.toNat_lt
  rw [UInt8.ofNat_toNat] at here
  exact here h

theorem hexCapital_ne (n : Nat) : Text.hexCapital n ≠ '+' := by
  have all : ∀ n < 16, (Nat.digitChar n).toUpper ≠ '+' := by decide
  exact all (n % 16) (Nat.mod_lt n (by decide))

theorem percentDecode_cons {c : Char} (h : c ≠ '%') (rest : List Char) :
    Url.percentDecode (c :: rest) = String.utf8EncodeChar c ++ Url.percentDecode rest := by
  rw [Url.percentDecode]
  exact fun _ _ _ escape => absurd escape h

theorem percentDecode_escape (b : UInt8) (rest : List Char) :
    Url.percentDecode (Url.encodeByte b ++ rest) = b :: Url.percentDecode rest := by
  have value : b.toNat / 16 % 16 * 16 + b.toNat % 16 = b.toNat := by
    have := b.toNat_lt
    omega
  simp only [Url.encodeByte, List.cons_append, List.nil_append, Url.percentDecode,
    Text.hexValue_hexCapital, value, UInt8.ofNat_toNat]

theorem percentDecode_encodeByte (b : UInt8) (rest : List Char) :
    Url.percentDecode (spaced (encodeByte b) ++ rest) = b :: Url.percentDecode rest := by
  rw [encodeByte]
  split
  · rename_i plain
    obtain ⟨same, plus, percent⟩ := isPlain_spec plain
    rw [spaced, List.map_singleton, if_neg plus, List.singleton_append,
      percentDecode_cons percent, same, List.singleton_append]
  · split
    · rename_i space
      subst space
      exact percentDecode_cons (c := ' ') (by decide) rest
    · have kept : spaced (Url.encodeByte b) = Url.encodeByte b := by
        simp [spaced, Url.encodeByte, hexCapital_ne]
      rw [kept, percentDecode_escape]

theorem percentDecode_encodeBytes (bs : List UInt8) :
    Url.percentDecode (spaced (bs.flatMap encodeByte)) = bs := by
  induction bs with
  | nil => rfl
  | cons b bs ih =>
    rw [List.flatMap_cons, spaced, List.map_append]
    exact (percentDecode_encodeByte b _).trans (congrArg (b :: ·) ih)

theorem readText_encodeText (s : String) : readText (encodeText s) = some s := by
  rw [readText, encodeText, percentDecode_encodeBytes, Utf8.decode?_encode]

theorem mem_encodeText {s : String} {c : Char} (h : c ∈ encodeText s) :
    c ∈ alphabet ∧ c ≠ '&' ∧ c ≠ '=' := by
  obtain ⟨b, -, h⟩ := List.mem_flatMap.mp h
  exact mem_encodeByte h

variable {pair : String × String}

theorem mem_encodePair {c : Char} (h : c ∈ encodePair pair) : c ∈ alphabet ∧ c ≠ '&' := by
  rcases List.mem_append.mp h with h | h
  · obtain ⟨known, plain, -⟩ := mem_encodeText h
    exact ⟨known, plain⟩
  · rcases List.mem_cons.mp h with rfl | h
    · decide
    · obtain ⟨known, plain, -⟩ := mem_encodeText h
      exact ⟨known, plain⟩

theorem readPair_encodePair : readPair (encodePair pair) = some pair := by
  have name : ∀ c ∈ encodeText pair.1, decide (c ≠ '=') = true := fun c h =>
    decide_eq_true (mem_encodeText h).2.2
  rw [readPair, encodePair, List.takeWhile_append_of_pos name, List.dropWhile_append_of_pos name,
    List.takeWhile_cons_of_neg (by decide), List.dropWhile_cons_of_neg (by decide),
    List.append_nil, List.drop_one, List.tail_cons, readText_encodeText, readText_encodeText]
  rfl

theorem splitWhere_encodePairs (pairs : List (String × String)) :
    (Text.splitWhere (· == '&') (encodePairs pairs)).filter (· ≠ []) = pairs.map encodePair := by
  have plain (pair : String × String) : '&' ∉ encodePair pair := fun h => (mem_encodePair h).2 rfl
  have kept (pair : String × String) : decide (encodePair pair ≠ []) = true := by
    simp [encodePair]
  induction pairs using encodePairs.induct with
  | case1 => rfl
  | case2 pair =>
    rw [encodePairs, Text.splitWhere_plain (plain pair), List.filter_cons, if_pos (kept pair)]
    rfl
  | case3 pair rest more ih =>
    rw [encodePairs, Text.splitWhere_more (plain pair), List.filter_cons, if_pos (kept pair), ih,
      List.map_cons]
    exact more

theorem mem_encodePairs {pairs : List (String × String)} {c : Char} (h : c ∈ encodePairs pairs) :
    c ∈ alphabet := by
  induction pairs using encodePairs.induct with
  | case1 => cases h
  | case2 pair => exact (mem_encodePair h).1
  | case3 pair rest more ih =>
    rw [encodePairs] at h
    · rcases List.mem_append.mp h with h | h
      · exact (mem_encodePair h).1
      · rcases List.mem_cons.mp h with rfl | h
        · decide
        · exact ih h
    · exact more

variable (form : Dict String)

theorem read_encode : read (encode form) = some form.entries := by
  rw [read, encode, Utf8.decode?_encodeChars]
  change ((Text.splitWhere (· == '&') (String.ofList _).toList).filter (· ≠ [])).mapM readPair = _
  rw [String.toList_ofList, splitWhere_encodePairs, List.mapM_map]
  have each : readPair ∘ encodePair = pure := funext fun _ => readPair_encodePair
  rw [each]
  exact List.mapM_pure.trans (congrArg some (List.map_id form.entries))

theorem mem_encode {b : UInt8} (h : b ∈ encode form) : b ∈ Utf8.encodeChars alphabet := by
  obtain ⟨c, member, h⟩ := List.mem_flatMap.mp h
  exact List.mem_flatMap.mpr ⟨c, mem_encodePairs member, h⟩

end Form

namespace Payload

def sent (boundary : String) (b : Body) : List UInt8 :=
  (ofBody boundary b).value.bytes

variable (boundary : String) (b : Body)

/-- What is sent for a body tells what the body is: its text, its bytes, or the fields of its form,
which are written with letters, digits and a few signs. -/
theorem ofBody_lossless :
    (b.type = .string →
      sent boundary b = Utf8.encode b.asString ∧
        Utf8.decode? (sent boundary b) = some b.asString) ∧
      (b.type = .byteArray → sent boundary b = b.asBytes.value) ∧
      (b.type = .form → Form.read (sent boundary b) = some b.asForm.entries ∧
        ∀ byte ∈ sent boundary b, byte ∈ Utf8.encodeChars Form.alphabet) := by
  refine ⟨fun type => ?_, fun type => ?_, fun type => ?_⟩
  all_goals rw [sent, ofBody, type]
  · exact ⟨rfl, Utf8.decode?_encode _⟩
  · rfl
  · exact ⟨Form.read_encode _, fun _ => Form.mem_encode _⟩

theorem ofBody_lossless_escaped :
    let fields : Dict String := Dict.ofList [("k=+", "ü%"), ("", "a&b")]
    Utf8.decode? (sent "" (Body.empty.withString "ü")) = some "ü" ∧
      sent "" (Body.empty.withEncoded "/w==") = [0xFF] ∧
      sent "" (Body.empty.withForm fields) = text "=a%26b&k%3D%2B=%C3%BC%25" ∧
      Form.read (sent "" (Body.empty.withForm fields)) = some [("", "a&b"), ("k=+", "ü%")] := by
  intro fields
  refine ⟨((ofBody_lossless "" _).1 rfl).2, ?_, by decide +kernel, ?_⟩
  · exact ((ofBody_lossless "" _).2.1 rfl).trans (by decide)
  · exact ((ofBody_lossless "" _).2.2 rfl).1

end Payload

end HttpBridge
