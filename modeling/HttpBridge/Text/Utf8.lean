namespace HttpBridge.Utf8

def encodeChars (cs : List Char) : List UInt8 :=
  cs.flatMap String.utf8EncodeChar

def encode (s : String) : List UInt8 :=
  encodeChars s.toList

def isTail (b : UInt8) : Bool :=
  0x80 ≤ b && b ≤ 0xBF

/-- Holds, for a lead byte, the number of bytes that follow and the range of the first of them. -/
def lead (b : UInt8) : Option (Nat × UInt8 × UInt8) :=
  if 0xC2 ≤ b && b ≤ 0xDF then some (1, 0x80, 0xBF)
  else if b == 0xE0 then some (2, 0xA0, 0xBF)
  else if b == 0xED then some (2, 0x80, 0x9F)
  else if 0xE1 ≤ b && b ≤ 0xEF then some (2, 0x80, 0xBF)
  else if b == 0xF0 then some (3, 0x90, 0xBF)
  else if 0xF1 ≤ b && b ≤ 0xF3 then some (3, 0x80, 0xBF)
  else if b == 0xF4 then some (3, 0x80, 0x8F)
  else none

def tails : Nat → Nat → List UInt8 → Option Nat × List UInt8
  | 0, bits, bs => (some bits, bs)
  | _ + 1, _, [] => (none, [])
  | n + 1, bits, b :: bs =>
    if isTail b then tails n (bits * 64 + (b.toNat - 0x80)) bs else (none, b :: bs)

theorem tails_length (n bits : Nat) (bs : List UInt8) : (tails n bits bs).2.length ≤ bs.length := by
  induction n generalizing bits bs with
  | zero => simp [tails]
  | succ n ih =>
    cases bs with
    | nil => simp [tails]
    | cons b bs =>
      simp only [tails]
      split
      · exact Nat.le_succ_of_le (ih _ bs)
      · exact Nat.le_refl _

/-- Reads one character; `none` stands for the longest beginning of one that the bytes hold. -/
def next (b : UInt8) (bs : List UInt8) : Option Char × List UInt8 :=
  if b < 0x80 then (some (Char.ofNat b.toNat), bs)
  else match lead b, bs with
    | some (n, lo, hi), c :: cs =>
      if lo ≤ c && c ≤ hi then
        let first := (b.toNat % 1 <<< (6 - n)) * 64 + (c.toNat - 0x80)
        match tails (n - 1) first cs with
        | (some bits, rest) => (some (Char.ofNat bits), rest)
        | (none, rest) => (none, rest)
      else (none, bs)
    | _, _ => (none, bs)

theorem next_length (b : UInt8) (bs : List UInt8) : (next b bs).2.length ≤ bs.length := by
  simp only [next]
  split
  · exact Nat.le_refl _
  · split
    · rename_i n lo hi c cs _
      split
      · have := tails_length (n - 1) (b.toNat % 1 <<< (6 - n) * 64 + (c.toNat - 0x80)) cs
        split <;> simp_all <;> omega
      · exact Nat.le_refl _
    · exact Nat.le_refl _

def pieces : List UInt8 → List (Option Char)
  | [] => []
  | b :: bs => (next b bs).1 :: pieces (next b bs).2
termination_by bs => bs.length
decreasing_by
  have := next_length b bs
  simp
  omega

def decodeLossy (bs : List UInt8) : String :=
  String.ofList ((pieces bs).map (·.getD '\uFFFD'))

def decode? (bs : List UInt8) : Option String :=
  ((pieces bs).mapM id).map String.ofList

end HttpBridge.Utf8
