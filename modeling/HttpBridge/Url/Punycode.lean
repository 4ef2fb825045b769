/-!
Labels of names with characters beyond ASCII, written in ASCII: the ASCII characters first, then the
places of the others as differences, in digits whose weights adapt to what was written before.
-/

namespace HttpBridge.Url.Punycode

def digitChar (d : Nat) : Char :=
  if d < 26 then Char.ofNat (0x61 + d) else Char.ofNat (0x30 + (d - 26))

def digitValue (c : Char) : Option Nat :=
  let n := c.toNat
  if 0x61 ≤ n && n ≤ 0x7A then some (n - 0x61)
  else if 0x41 ≤ n && n ≤ 0x5A then some (n - 0x41)
  else if 0x30 ≤ n && n ≤ 0x39 then some (n - 0x30 + 26)
  else none

def threshold (position bias : Nat) : Nat :=
  min 26 (max 1 (position - bias))

def adaptFrom : Nat → Nat → Nat → Nat
  | 0, _, k => k
  | fuel + 1, delta, k =>
    if 455 < delta then adaptFrom fuel (delta / 35) (k + 36) else k + 36 * delta / (delta + 38)

def adapt (delta count : Nat) (first : Bool) : Nat :=
  let delta := if first then delta / 700 else delta / 2
  adaptFrom 32 (delta + delta / count) 0

def writeNumber (bias : Nat) : Nat → Nat → Nat → List Char
  | 0, _, _ => []
  | fuel + 1, position, n =>
    let t := threshold position bias
    if n < t then [digitChar n]
    else digitChar (t + (n - t) % (36 - t))
      :: writeNumber bias fuel (position + 36) ((n - t) / (36 - t))

structure Writer where
  written : List Char
  delta : Nat
  bias : Nat
  handled : Nat

def Writer.see (basic point : Nat) (w : Writer) (c : Nat) : Writer :=
  if c < point then { w with delta := w.delta + 1 }
  else if c = point then
    { written := w.written ++ writeNumber w.bias 64 36 w.delta
      bias := adapt w.delta (w.handled + 1) (w.handled == basic)
      delta := 0
      handled := w.handled + 1 }
  else w

def writeFrom (cs : List Nat) (basic : Nat) : Nat → Nat → Writer → List Char
  | 0, _, w => w.written
  | fuel + 1, point, w =>
    match (cs.filter (point ≤ ·)).min? with
    | none => w.written
    | some next =>
      let start := { w with delta := w.delta + (next - point) * (w.handled + 1) }
      let done := cs.foldl (Writer.see basic next) start
      writeFrom cs basic fuel (next + 1) { done with delta := done.delta + 1 }

def encode (cs : List Char) : List Char :=
  let basic := cs.filter (·.toNat < 0x80)
  let start := if basic.isEmpty then [] else basic ++ ['-']
  writeFrom (cs.map Char.toNat) basic.length cs.length 0x80
    ⟨start, 0, 72, basic.length⟩

structure Reader where
  read : List Nat
  place : Nat
  bias : Nat
  point : Nat
  fresh : Bool

def readNumber (bias : Nat) : Nat → Nat → Nat → List Char → Option (Nat × List Char)
  | _, _, _, [] => none
  | position, n, weight, c :: cs =>
    match digitValue c with
    | none => none
    | some d =>
      let t := threshold position bias
      let n := n + d * weight
      if d < t then some (n, cs) else readNumber bias (position + 36) n (weight * (36 - t)) cs

def Reader.add (r : Reader) (delta : Nat) : Reader :=
  let count := r.read.length + 1
  let place := (r.place + delta) % count
  let point := r.point + (r.place + delta) / count
  { read := r.read.take place ++ point :: r.read.drop place
    place := place + 1
    bias := adapt delta count r.fresh
    fresh := false
    point }

def readFrom : Nat → Reader → List Char → Option (List Nat)
  | _, r, [] => some r.read
  | 0, _, _ :: _ => none
  | fuel + 1, r, cs =>
    match readNumber r.bias 36 0 1 cs with
    | none => none
    | some (delta, rest) =>
      let next := r.add delta
      if next.point > 0x10FFFF then none else readFrom fuel next rest

def decode (cs : List Char) : Option (List Char) := do
  let tail := (cs.reverse.takeWhile (· != '-')).reverse
  let basic := (cs.take (cs.length - tail.length)).dropLast
  let points ← readFrom cs.length ⟨basic.map Char.toNat, 0, 72, 0x80, true⟩ tail
  if points.all Nat.isValidChar then return points.map Char.ofNat else none

end HttpBridge.Url.Punycode
