import HttpBridge.Base64
import HttpBridge.Proofs.Results
import HttpBridge.Proofs.Utf8

namespace HttpBridge.Base64

open Utf8 (encodeChars)

def letterByte (n : Nat) : UInt8 :=
  .ofNat (letter n).toNat

theorem letter_ascii {n : Nat} (small : n < 64) : (letter n).toNat < 0x80 := by
  revert n
  decide

theorem value_letterByte {n : Nat} (small : n < 64) : value (letterByte n) = some n := by
  revert n
  decide

theorem letterByte_ne_padding {n : Nat} (small : n < 64) : letterByte n ≠ padding := by
  revert n
  decide

theorem value_eq_some {b : UInt8} {n : Nat} (h : value b = some n) :
    n < 64 ∧ b = letterByte n := by
  have all : ∀ k < 256, ∀ n ∈ value (.ofNat k), n < 64 ∧ .ofNat k = letterByte n := by
    decide +kernel
  have found := all b.toNat b.toNat_lt n
  rw [UInt8.ofNat_toNat] at found
  exact found h

theorem symbol_letterByte (offset : Nat) {n : Nat} (small : n < 64) :
    symbol offset (letterByte n) = .ok n := by
  rw [symbol, value_letterByte small]

theorem symbol_eq_ok {offset : Nat} {b : UInt8} {n : Nat} (h : symbol offset b = .ok n) :
    n < 64 ∧ b = letterByte n := by
  rw [symbol] at h
  split at h
  · rename_i found
    cases h
    exact value_eq_some found
  · cases h

theorem encodeChars_letter {n : Nat} (small : n < 64) (cs : List Char) :
    encodeChars (letter n :: cs) = letterByte n :: encodeChars cs := by
  rw [Utf8.encodeChars_cons, Utf8.utf8EncodeChar_ascii (letter_ascii small)]
  rfl

def written (bs : List UInt8) : List UInt8 :=
  encodeChars (encodeBytes bs)

theorem encode_encode (bs : List UInt8) : Utf8.encode (encode bs) = written bs :=
  Utf8.encode_ofList _

theorem written_one (a : UInt8) :
    written [a] = [letterByte (a.toNat / 4), letterByte (a.toNat % 4 * 16), padding, padding] := by
  have := a.toNat_lt
  rw [written, encodeBytes, encodeChars_letter (by omega), encodeChars_letter (by omega)]
  rfl

theorem written_two (a b : UInt8) :
    written [a, b] = [letterByte (a.toNat / 4), letterByte (a.toNat % 4 * 16 + b.toNat / 16),
      letterByte (b.toNat % 16 * 4), padding] := by
  have := a.toNat_lt
  have := b.toNat_lt
  rw [written, encodeBytes, encodeChars_letter (by omega), encodeChars_letter (by omega),
    encodeChars_letter (by omega)]
  rfl

theorem written_more (a b c : UInt8) (rest : List UInt8) :
    written (a :: b :: c :: rest) = letterByte (a.toNat / 4) ::
      letterByte (a.toNat % 4 * 16 + b.toNat / 16) ::
      letterByte (b.toNat % 16 * 4 + c.toNat / 64) :: letterByte (c.toNat % 64) ::
      written rest := by
  have := a.toNat_lt
  have := b.toNat_lt
  have := c.toNat_lt
  rw [written, encodeBytes, encodeChars_letter (by omega), encodeChars_letter (by omega),
    encodeChars_letter (by omega), encodeChars_letter (by omega), written]

theorem length_written (bs : List UInt8) : (written bs).length % 4 = 0 := by
  induction bs using encodeBytes.induct with
  | case1 => rfl
  | case2 a => simp [written_one]
  | case3 a b => simp [written_two]
  | case4 a b c rest ih =>
    rw [written_more]
    simp only [List.length_cons]
    omega

theorem join_bytes (a b c : UInt8) :
    join (a.toNat / 4) (a.toNat % 4 * 16 + b.toNat / 16) (b.toNat % 16 * 4 + c.toNat / 64)
      (c.toNat % 64) = [a, b, c] := by
  have ha := a.toNat_lt
  have hb := b.toNat_lt
  have hc := c.toNat_lt
  have first : a.toNat / 4 * 4 + (a.toNat % 4 * 16 + b.toNat / 16) / 16 = a.toNat := by omega
  have second : (a.toNat % 4 * 16 + b.toNat / 16) % 16 * 16 +
      (b.toNat % 16 * 4 + c.toNat / 64) / 4 = b.toNat := by omega
  have third : (b.toNat % 16 * 4 + c.toNat / 64) % 4 * 64 + c.toNat % 64 = c.toNat := by omega
  rw [join, first, second, third, UInt8.ofNat_toNat, UInt8.ofNat_toNat, UInt8.ofNat_toNat]

theorem join_two_bytes (a b : UInt8) :
    (join (a.toNat / 4) (a.toNat % 4 * 16 + b.toNat / 16) (b.toNat % 16 * 4) 0).take 2 = [a, b] :=
  congrArg (List.take 2) (join_bytes a b 0)

theorem join_one_byte (a : UInt8) :
    (join (a.toNat / 4) (a.toNat % 4 * 16) 0 0).take 1 = [a] :=
  congrArg (List.take 1) (join_bytes a 0 0)

theorem written_join {a b c d : Nat} (ha : a < 64) (hb : b < 64) (hc : c < 64) (hd : d < 64)
    (rest : List UInt8) :
    written (join a b c d ++ rest) =
      letterByte a :: letterByte b :: letterByte c :: letterByte d :: written rest := by
  have first : (UInt8.ofNat (a * 4 + b / 16)).toNat = a * 4 + b / 16 :=
    UInt8.toNat_ofNat_of_lt (by simp only [UInt8.size]; omega)
  have second : (UInt8.ofNat (b % 16 * 16 + c / 4)).toNat = b % 16 * 16 + c / 4 :=
    UInt8.toNat_ofNat_of_lt (by simp only [UInt8.size]; omega)
  have third : (UInt8.ofNat (c % 4 * 64 + d)).toNat = c % 4 * 64 + d :=
    UInt8.toNat_ofNat_of_lt (by simp only [UInt8.size]; omega)
  have a' : (a * 4 + b / 16) / 4 = a := by omega
  have b' : (a * 4 + b / 16) % 4 * 16 + (b % 16 * 16 + c / 4) / 16 = b := by omega
  have c' : (b % 16 * 16 + c / 4) % 16 * 4 + (c % 4 * 64 + d) / 64 = c := by omega
  have d' : (c % 4 * 64 + d) % 64 = d := by omega
  change written (_ :: _ :: _ :: rest) = _
  rw [written_more, first, second, third, a', b', c', d']

theorem written_take_one {a b : Nat} (ha : a < 64) (hb : b < 64) (spare : b % 16 = 0) :
    written ((join a b 0 0).take 1) = [letterByte a, letterByte b, padding, padding] := by
  have value : (UInt8.ofNat (a * 4 + b / 16)).toNat = a * 4 + b / 16 :=
    UInt8.toNat_ofNat_of_lt (by simp only [UInt8.size]; omega)
  have a' : (a * 4 + b / 16) / 4 = a := by omega
  have b' : (a * 4 + b / 16) % 4 * 16 = b := by omega
  change written [_] = _
  rw [written_one, value, a', b']

theorem written_take_two {a b c : Nat} (ha : a < 64) (hb : b < 64) (hc : c < 64)
    (spare : c % 4 = 0) :
    written ((join a b c 0).take 2) = [letterByte a, letterByte b, letterByte c, padding] := by
  have first : (UInt8.ofNat (a * 4 + b / 16)).toNat = a * 4 + b / 16 :=
    UInt8.toNat_ofNat_of_lt (by simp only [UInt8.size]; omega)
  have second : (UInt8.ofNat (b % 16 * 16 + c / 4)).toNat = b % 16 * 16 + c / 4 :=
    UInt8.toNat_ofNat_of_lt (by simp only [UInt8.size]; omega)
  have a' : (a * 4 + b / 16) / 4 = a := by omega
  have b' : (a * 4 + b / 16) % 4 * 16 + (b % 16 * 16 + c / 4) / 16 = b := by omega
  have c' : (b % 16 * 16 + c / 4) % 16 * 4 = c := by omega
  change written [_, _] = _
  rw [written_two, first, second, a', b', c']

section

variable {offset : Nat} {t t' : Tail} {bs out : List UInt8}

theorem tail_letter (unpadded : t.padded = none) {n : Nat} (small : n < 64) (bs : List UInt8) :
    tail offset t (letterByte n :: bs) =
      tail offset ⟨t.values ++ [n], letterByte n, none, t.size + 1⟩ bs := by
  rw [tail, if_neg (letterByte_ne_padding small), unpadded, symbol_letterByte _ small]
  rfl

theorem tail_padding (enough : 2 ≤ t.size) (bs : List UInt8) :
    tail offset t (padding :: bs) =
      tail offset { t with padded := t.padded.or (some t.size), size := t.size + 1 } bs := by
  rw [tail, if_pos rfl, if_neg (Nat.not_lt.mpr enough)]

theorem tail_paddings (offset : Nat) {k : Nat} (enough : k = 0 ∨ 2 ≤ t.size) :
    ∃ first, tail offset t (List.replicate k padding) =
      .ok ⟨t.values, t.last, first, t.size + k⟩ := by
  induction k generalizing t with
  | zero => exact ⟨t.padded, rfl⟩
  | succ k ih =>
    have enough : 2 ≤ t.size := enough.resolve_left (Nat.succ_ne_zero k)
    obtain ⟨first, read⟩ := ih (t := { t with
      padded := t.padded.or (some t.size), size := t.size + 1 }) (.inr (Nat.le_succ_of_le enough))
    refine ⟨first, ?_⟩
    rw [List.replicate_succ, tail_padding enough, read, Nat.add_right_comm]
    rfl

theorem tail_group (offset : Nat) (unpadded : t.padded = none) {ns : List Nat} {k : Nat}
    (small : ∀ n ∈ ns, n < 64) (enough : k = 0 ∨ 2 ≤ t.size + ns.length) :
    ∃ last first, tail offset t (ns.map letterByte ++ List.replicate k padding) =
      .ok ⟨t.values ++ ns, last, first, t.size + ns.length + k⟩ := by
  induction ns generalizing t with
  | nil =>
    obtain ⟨first, read⟩ := tail_paddings offset enough
    refine ⟨t.last, first, ?_⟩
    rw [List.append_nil]
    exact read
  | cons n ns ih =>
    obtain ⟨low, small⟩ := List.forall_mem_cons.mp small
    simp only [List.length_cons] at enough
    obtain ⟨last, first, read⟩ := ih (t := ⟨t.values ++ [n], letterByte n, none, t.size + 1⟩) rfl
      small (enough.imp_right fun enough => by simp only; omega)
    refine ⟨last, first, ?_⟩
    rw [List.map_cons, List.cons_append, tail_letter unpadded low, read, List.append_assoc,
      List.length_cons, Nat.add_right_comm t.size 1]
    rfl

theorem tail_padded_eq_ok {first : Nat} (padded : t.padded = some first)
    (h : tail offset t bs = .ok t') :
    ∃ k, bs = List.replicate k padding ∧ t'.values = t.values ∧ t'.size = t.size + k := by
  induction bs generalizing t with
  | nil =>
    cases h
    exact ⟨0, rfl, rfl, rfl⟩
  | cons b bs ih =>
    rw [tail] at h
    split at h
    · rename_i same
      split at h
      · cases h
      · obtain ⟨k, rfl, values, size⟩ := ih (by rw [padded]; rfl) h
        refine ⟨k + 1, by rw [same]; rfl, values, ?_⟩
        rw [size]
        exact Nat.add_right_comm ..
    · rw [padded] at h
      cases h

theorem tail_eq_ok (unpadded : t.padded = none) (h : tail offset t bs = .ok t') :
    ∃ ns k, (∀ n ∈ ns, n < 64) ∧ bs = ns.map letterByte ++ List.replicate k padding ∧
      t'.values = t.values ++ ns ∧ t'.size = t.size + ns.length + k := by
  induction bs generalizing t with
  | nil =>
    cases h
    exact ⟨[], 0, nofun, rfl, (List.append_nil _).symm, rfl⟩
  | cons b bs ih =>
    rw [tail] at h
    split at h
    · rename_i same
      split at h
      · cases h
      · have padded : t.padded.or (some t.size) = some t.size := by rw [unpadded]; rfl
        obtain ⟨k, rfl, values, size⟩ := tail_padded_eq_ok padded h
        refine ⟨[], k + 1, nofun, by rw [same]; rfl, by simpa using values, ?_⟩
        rw [size]
        simp only [List.length_nil]
        omega
    · rw [unpadded] at h
      obtain ⟨n, read, h⟩ := bind_eq_ok.mp h
      obtain ⟨small, rfl⟩ := symbol_eq_ok read
      obtain ⟨ns, k, all, rfl, values, size⟩ := ih rfl h
      refine ⟨n :: ns, k, List.forall_mem_cons.mpr ⟨small, all⟩, rfl, ?_, ?_⟩
      · rw [values, List.append_assoc]
        rfl
      · rw [size]
        simp only [List.length_cons]
        omega

theorem finish_eq_ok {ns : List Nat} {k : Nat} (values : t.values = ns)
    (size : t.size = ns.length + k) (short : t.size ≤ 4) (h : finish offset t = .ok out) :
    (∃ a b c d, ns = [a, b, c, d] ∧ k = 0 ∧ out = join a b c d) ∨
      (∃ a b c, ns = [a, b, c] ∧ k = 1 ∧ c % 4 = 0 ∧ out = (join a b c 0).take 2) ∨
      ∃ a b, ns = [a, b] ∧ k = 2 ∧ b % 16 = 0 ∧ out = (join a b 0 0).take 1 := by
  rw [finish] at h
  split at h
  · split at h <;> cases h
  · -- the whole group is there: four letters, three and one padding, or two and two
    rename_i whole
    rw [values] at h
    split at h
    · rename_i a b c d
      simp only [List.length_cons, List.length_nil] at size
      cases h
      exact .inl ⟨a, b, c, d, rfl, by omega, rfl⟩
    · rename_i a b c
      simp only [List.length_cons, List.length_nil] at size
      split at h
      · rename_i spare
        cases h
        exact .inr (.inl ⟨a, b, c, rfl, by omega, spare, rfl⟩)
      · cases h
    · rename_i a b
      simp only [List.length_cons, List.length_nil] at size
      split at h
      · rename_i spare
        cases h
        exact .inr (.inr ⟨a, b, rfl, by omega, spare, rfl⟩)
      · cases h
    · cases h

theorem written_of_last (short : bs.length ≤ 4)
    (h : tail offset ⟨[], 0, none, 0⟩ bs >>= finish offset = .ok out) : bs = written out := by
  obtain ⟨t, read, done⟩ := bind_eq_ok.mp h
  obtain ⟨ns, k, small, rfl, values, size⟩ := tail_eq_ok rfl read
  simp only [List.length_append, List.length_map, List.length_replicate] at short
  simp only [List.nil_append, Nat.zero_add] at values size
  obtain ⟨a, b, c, d, rfl, rfl, rfl⟩ | ⟨a, b, c, rfl, rfl, spare, rfl⟩ |
    ⟨a, b, rfl, rfl, spare, rfl⟩ :=
    finish_eq_ok values size (by omega) done
  · have all := written_join (small a (by simp)) (small b (by simp)) (small c (by simp))
      (small d (by simp)) []
    rw [List.append_nil] at all
    exact all.symm
  · exact (written_take_two (small a (by simp)) (small b (by simp)) (small c (by simp)) spare).symm
  · exact (written_take_one (small a (by simp)) (small b (by simp)) spare).symm

theorem written_of_decodeFrom (h : decodeFrom offset bs = .ok out) : bs = written out := by
  induction offset, bs using decodeFrom.induct generalizing out with
  | case1 offset a b c d e rest ih =>
    simp only [decodeFrom, bind_eq_ok] at h
    obtain ⟨na, first, nb, second, nc, third, nd, fourth, bytes, more, whole⟩ := h
    obtain ⟨ha, rfl⟩ := symbol_eq_ok first
    obtain ⟨hb, rfl⟩ := symbol_eq_ok second
    obtain ⟨hc, rfl⟩ := symbol_eq_ok third
    obtain ⟨hd, rfl⟩ := symbol_eq_ok fourth
    rw [ih more, ← Except.ok.inj whole, written_join ha hb hc hd]
  | case2 offset =>
    cases h
    rfl
  | case3 offset bs long empty =>
    rw [decodeFrom.eq_3 offset bs long empty] at h
    refine written_of_last (Nat.le_of_not_lt fun more => ?_) h
    -- more than four letters are the first case
    match bs, more with
    | a :: b :: c :: d :: e :: rest, _ => exact long a b c d e rest rfl

theorem finish_four {a b c d : Nat} (whole : t.size % 4 = 0) (values : t.values = [a, b, c, d]) :
    finish offset t = .ok (join a b c d) := by
  rw [finish, if_neg (not_not_intro whole), values]

theorem finish_three {a b c : Nat} (whole : t.size % 4 = 0) (values : t.values = [a, b, c])
    (spare : c % 4 = 0) : finish offset t = .ok ((join a b c 0).take 2) := by
  rw [finish, if_neg (not_not_intro whole), values]
  exact if_pos spare

theorem finish_two {a b : Nat} (whole : t.size % 4 = 0) (values : t.values = [a, b])
    (spare : b % 16 = 0) : finish offset t = .ok ((join a b 0 0).take 1) := by
  rw [finish, if_neg (not_not_intro whole), values]
  exact if_pos spare

theorem decodeFrom_group (ns : List Nat) (k : Nat) (small : ∀ n ∈ ns, n < 64)
    (enough : 2 ≤ ns.length) (four : ns.length + k = 4)
    (done : ∀ last first, finish offset ⟨ns, last, first, 4⟩ = .ok out) :
    decodeFrom offset (ns.map letterByte ++ List.replicate k padding) = .ok out := by
  obtain ⟨last, first, read⟩ := tail_group offset (t := ⟨[], 0, none, 0⟩) (k := k)
    rfl small (.inr (by simpa using enough))
  rw [List.nil_append, Nat.zero_add, four] at read
  -- four letters at most, so that this is the last group
  rw [decodeFrom.eq_3]
  · exact bind_eq_ok.mpr ⟨_, read, done last first⟩
  · intro b₁ b₂ b₃ b₄ b₅ rest same
    have := congrArg List.length same
    simp only [List.length_append, List.length_map, List.length_replicate, List.length_cons] at this
    omega
  · intro same
    have := congrArg List.length same
    simp only [List.length_append, List.length_map, List.length_replicate, List.length_nil] at this
    omega

theorem decodeFrom_letters {a b c d : Nat} (ha : a < 64) (hb : b < 64) (hc : c < 64) (hd : d < 64)
    (read : decodeFrom (offset + 4) bs = .ok out) :
    decodeFrom offset (letterByte a :: letterByte b :: letterByte c :: letterByte d :: bs) =
      .ok (join a b c d ++ out) := by
  cases bs with
  | nil =>
    cases read
    exact decodeFrom_group [a, b, c, d] 0 (by simp [ha, hb, hc, hd]) (Nat.le_add_left 2 2) rfl
      fun _ _ => finish_four (Nat.mod_self 4) rfl
  | cons e rest =>
    simp only [decodeFrom, symbol_letterByte, ha, hb, hc, hd, read]
    rfl

end

theorem decodeFrom_written (offset : Nat) (bs : List UInt8) :
    decodeFrom offset (written bs) = .ok bs := by
  -- along the writer: it takes three bytes at a time, and the reader four letters
  induction bs using encodeBytes.induct generalizing offset with
  | case1 => rfl
  | case2 a =>
    have := a.toNat_lt
    rw [written_one]
    refine decodeFrom_group [a.toNat / 4, a.toNat % 4 * 16] 2 (by simp; omega) (Nat.le_refl 2) rfl
      fun _ _ => ?_
    rw [finish_two (Nat.mod_self 4) rfl (by omega), join_one_byte]
  | case3 a b =>
    have := a.toNat_lt
    have := b.toNat_lt
    rw [written_two]
    refine decodeFrom_group [a.toNat / 4, a.toNat % 4 * 16 + b.toNat / 16, b.toNat % 16 * 4] 1
      (by simp; omega) (Nat.le_succ 2) rfl fun _ _ => ?_
    rw [finish_three (Nat.mod_self 4) rfl (by omega), join_two_bytes]
  | case4 a b c rest ih =>
    have := a.toNat_lt
    have := b.toNat_lt
    have := c.toNat_lt
    rw [written_more, decodeFrom_letters (by omega) (by omega) (by omega) (by omega) (ih _),
      join_bytes]
    rfl

theorem trailing_written (bs : List UInt8) : trailing (written bs) = none := by
  have whole := length_written bs
  unfold trailing
  split
  · rw [whole]
    rfl
  · rfl

/-- A text is read as bytes just if it is the one that is written for them. -/
theorem decode_eq_ok {s : String} {bs : List UInt8} : decode s = .ok bs ↔ s = encode bs := by
  constructor
  · intro h
    simp only [decode] at h
    split at h
    · cases h
    · apply Utf8.encode_injective
      rw [encode_encode]
      exact written_of_decodeFrom h
  · rintro rfl
    simp only [decode, encode_encode, trailing_written]
    exact decodeFrom_written 0 bs

end HttpBridge.Base64
