import HttpBridge.Text.Utf8

namespace HttpBridge.Base64

def padding : UInt8 := 0x3D

def letter (n : Nat) : Char :=
  if n < 26 then Char.ofNat (0x41 + n)
  else if n < 52 then Char.ofNat (0x61 + (n - 26))
  else if n < 62 then Char.ofNat (0x30 + (n - 52))
  else if n = 62 then '+' else '/'

def value (b : UInt8) : Option Nat :=
  let n := b.toNat
  if 0x41 ≤ n && n ≤ 0x5A then some (n - 0x41)
  else if 0x61 ≤ n && n ≤ 0x7A then some (n - 0x61 + 26)
  else if 0x30 ≤ n && n ≤ 0x39 then some (n - 0x30 + 52)
  else if n = 0x2B then some 62
  else if n = 0x2F then some 63
  else none

def encodeBytes : List UInt8 → List Char
  | [] => []
  | [a] => [letter (a.toNat / 4), letter (a.toNat % 4 * 16), '=', '=']
  | [a, b] =>
    [letter (a.toNat / 4), letter (a.toNat % 4 * 16 + b.toNat / 16), letter (b.toNat % 16 * 4), '=']
  | a :: b :: c :: rest =>
    letter (a.toNat / 4) :: letter (a.toNat % 4 * 16 + b.toNat / 16)
      :: letter (b.toNat % 16 * 4 + c.toNat / 64) :: letter (c.toNat % 64) :: encodeBytes rest

def encode (bs : List UInt8) : String :=
  String.ofList (encodeBytes bs)

inductive Fault
  | symbol (byte : UInt8) (offset : Nat)
  | lastSymbol (byte : UInt8) (offset : Nat)
  | length (n : Nat)
  | badPadding
  deriving DecidableEq, Repr

def Fault.message : Fault → String
  | .symbol b offset => s!"Invalid symbol {b}, offset {offset}."
  | .lastSymbol b offset => s!"Invalid last symbol {b}, offset {offset}."
  | .length n => s!"Invalid input length: {n}"
  | .badPadding => "Invalid padding"

def symbol (offset : Nat) (b : UInt8) : Except Fault Nat :=
  match value b with
  | some n => .ok n
  | none => .error (.symbol b offset)

def join (a b c d : Nat) : List UInt8 :=
  [UInt8.ofNat (a * 4 + b / 16), UInt8.ofNat (b % 16 * 16 + c / 4), UInt8.ofNat (c % 4 * 64 + d)]

structure Tail where
  values : List Nat
  last : UInt8
  padded : Option Nat
  size : Nat

def tail (offset : Nat) : Tail → List UInt8 → Except Fault Tail
  | t, [] => .ok t
  | t, b :: bs =>
    if b = padding then
      if t.size < 2 then .error (.symbol b (offset + t.size))
      else tail offset { t with padded := t.padded.or (some t.size), size := t.size + 1 } bs
    else match t.padded with
      | some first => .error (.symbol padding (offset + first))
      | none => do
        let n ← symbol (offset + t.size) b
        tail offset { t with values := t.values ++ [n], last := b, size := t.size + 1 } bs

/-- Joins the letters of the last group. The bits that no byte uses must be zero. -/
def finish (offset : Nat) (t : Tail) : Except Fault (List UInt8) :=
  if t.size % 4 ≠ 0 then
    if t.values.length < 2 then .error (.length (offset + t.values.length)) else .error .badPadding
  else match t.values with
    | [a, b, c, d] => .ok (join a b c d)
    | [a, b, c] =>
      if c % 4 = 0 then .ok ((join a b c 0).take 2) else .error (.lastSymbol t.last (offset + 2))
    | [a, b] =>
      if b % 16 = 0 then .ok ((join a b 0 0).take 1) else .error (.lastSymbol t.last (offset + 1))
    | vs => .error (.length (offset + vs.length))

def decodeFrom (offset : Nat) : List UInt8 → Except Fault (List UInt8)
  | a :: b :: c :: d :: e :: rest => do
    let va ← symbol offset a
    let vb ← symbol (offset + 1) b
    let vc ← symbol (offset + 2) c
    let vd ← symbol (offset + 3) d
    let bytes ← decodeFrom (offset + 4) (e :: rest)
    return join va vb vc vd ++ bytes
  | [] => .ok []
  | bs => do finish offset (← tail offset ⟨[], 0, none, 0⟩ bs)

/-- Holds the fault of a single byte after the last whole group that is no letter. It is found
first. -/
def trailing (bs : List UInt8) : Option Fault :=
  match bs.getLast? with
  | some b =>
    if bs.length % 4 = 1 && b != padding && (value b).isNone then
      some (.symbol b (bs.length - 1))
    else none
  | none => none

def decode (s : String) : Except Fault (List UInt8) :=
  let bs := Utf8.encode s
  match trailing bs with
  | some f => .error f
  | none => decodeFrom 0 bs

end HttpBridge.Base64
