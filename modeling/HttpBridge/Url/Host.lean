import HttpBridge.Decimal.Digits
import HttpBridge.Unicode.Cases
import HttpBridge.Unicode.Categories
import HttpBridge.Url.Percent
import HttpBridge.Url.Punycode

namespace HttpBridge.Url

inductive Host
  | name (s : List Char)
  | v4 (n : Nat)
  | v6 (pieces : List Nat)
  deriving DecidableEq

namespace Host

def isEmpty : Host → Bool
  | name s => s.isEmpty
  | _ => false

def decimal (n : Nat) : List Char :=
  Nat.toDigits 10 n

def renderV4 (n : Nat) : List Char :=
  decimal (n >>> 24 % 256) ++ '.' :: decimal (n >>> 16 % 256) ++ '.'
    :: decimal (n >>> 8 % 256) ++ '.' :: decimal (n % 256)

def zeroRun (pieces : List Nat) : Nat :=
  (pieces.takeWhile (· == 0)).length

def longestZeros : Nat → List Nat → Nat × Nat
  | _, [] => (0, 0)
  | index, p :: ps =>
    let here := zeroRun (p :: ps)
    let later := longestZeros (index + 1) ps
    if later.2 ≤ here then (index, here) else later

def hexPieces (pieces : List Nat) : List Char :=
  [':'].intercalate (pieces.map (Nat.toDigits 16))

def renderV6 (pieces : List Nat) : List Char :=
  let (start, length) := longestZeros 0 pieces
  if length < 2 then hexPieces pieces
  else hexPieces (pieces.take start) ++ [':', ':'] ++ hexPieces (pieces.drop (start + length))

def render : Host → List Char
  | name s => s
  | v4 n => renderV4 n
  | v6 pieces => '[' :: renderV6 pieces ++ [']']

end Host

/-- A number in an address of the older kind: `none` is no number, `some none` one that is too
large. -/
def v4Number (cs : List Char) : Option (Option Nat) :=
  let read (base : Nat) (ds : List Char) : Option (Option Nat) :=
    if ds.all fun c => (Text.hexValue c).any (· < base) then
      let n := ds.foldl (fun n c => n * base + (Text.hexValue c).getD 0) 0
      some (if n < UInt32.size then some n else none)
    else none
  match cs with
  | [] => none
  | '0' :: 'x' :: ds | '0' :: 'X' :: ds => read 16 ds
  | ['0'] => some (some 0)
  | '0' :: ds => read 8 ds
  | ds => read 10 ds

def parts (cs : List Char) : List (List Char) :=
  Text.splitWhere (· == '.') cs

def dropEmptyEnd (ps : List (List Char)) : List (List Char) :=
  if ps.getLast? = some [] then ps.dropLast else ps

def endsInNumber (cs : List Char) : Bool :=
  match (dropEmptyEnd (parts cs)).getLast? with
  | none => false
  | some last => (last != [] && last.all Char.isDigit) || (v4Number last).isSome

def readV4 (cs : List Char) : Option Host := do
  let numbers ← (dropEmptyEnd (parts cs)).mapM fun p => (v4Number p).join
  let last ← numbers.getLast?
  let before := numbers.dropLast
  if 3 < before.length || 1 <<< (8 * (4 - before.length)) ≤ last || before.any (255 < ·) then none
  else
    let high := before.foldl (fun n b => n * 256 + b) 0
    return .v4 (high <<< (8 * (4 - before.length)) + last)

def v4Tail (cs : List Char) : Option (List Nat) :=
  let byte (ds : List Char) : Option Nat :=
    if ds.isEmpty || !ds.all Char.isDigit || (ds.head? = some '0' && 1 < ds.length) then none
    else
      let n := Decimal.digitsValue ds
      if n < 256 then some n else none
  match (parts cs).mapM byte with
  | some [a, b, c, d] => some [a * 256 + b, c * 256 + d]
  | _ => none

def v6Pieces : Nat → List Char → Option (List Nat)
  | 0, _ => none
  | _, [] => some []
  | fuel + 1, cs =>
    let digits := (cs.take 4).takeWhile fun c => (Text.hexValue c).isSome
    match cs.drop digits.length with
    | [] => if digits.isEmpty then none else some [Text.hexNumber digits]
    | ':' :: rest =>
      if digits.isEmpty || rest.isEmpty then none
      else (v6Pieces fuel rest).map (Text.hexNumber digits :: ·)
    | '.' :: _ => v4Tail cs
    | _ => none

def splitColons : List Char → Option (List Char × List Char)
  | ':' :: ':' :: rest => some ([], rest)
  | c :: rest => (splitColons rest).map fun (before, rest) => (c :: before, rest)
  | [] => none

def readV6 (cs : List Char) : Option Host := do
  match splitColons cs with
  | none =>
    let pieces ← v6Pieces 9 cs
    if pieces.length = 8 then return .v6 pieces else none
  | some (before, rest) =>
    let left ← v6Pieces 9 before
    let right ← v6Pieces 9 rest
    if before.contains '.' || 7 < left.length + right.length then none
    else return .v6 (left ++ List.replicate (8 - left.length - right.length) 0 ++ right)

def inCategory (names : List String) (c : Char) : Bool :=
  Unicode.categories.any fun t => t.names.any names.contains && t.contains c

def finalSigma : Char := 'ς'

def pointedCapital : Char := 'İ'

def usualLetter (c : Char) : List Char :=
  if c = finalSigma then [c]
  else if c = pointedCapital then ['i', '\u0307']
  else [Char.ofNat (Unicode.usualForm c.toNat)]

/-- Brings a character of a name to its usual form; `none` is one that names may not hold. -/
def mapNameChar (c : Char) : Option (List Char) :=
  let n := c.toNat
  if n < 0x80 then some [c.toLower]
  else if n = 0x3002 || n = 0xFF0E || n = 0xFF61 then some ['.']
  else if [0xAD, 0x200B, 0x2060, 0xFEFF].contains n || (0xFE00 ≤ n && n ≤ 0xFE0F) then some []
  else if 0xFF01 ≤ n && n ≤ 0xFF5E then some [(Char.ofNat (n - 0xFEE0)).toLower]
  else if inCategory ["cc", "cf", "co", "zs", "zl", "zp"] c || n = 0xFFFD then none
  else if !Unicode.categories.any (·.contains c) then none
  else some (usualLetter c)

def asciiMark : List Char := ['x', 'n', '-', '-']

def asciiLabel (label : List Char) : Option (List Char) :=
  if label.any (0x80 ≤ ·.toNat) then some (asciiMark ++ Punycode.encode label)
  else if label.take 4 = asciiMark then
    match Punycode.decode (label.drop 4) with
    | some cs =>
      let usual := cs.all fun c => mapNameChar c == some [c]
      if usual && cs.any (0x80 ≤ ·.toNat) then some label else none
    | none => none
  else some label

def isForbidden (c : Char) : Bool :=
  c ≤ ' ' || c == '\x7f'
    || ['%', '#', '/', ':', '<', '>', '?', '@', '[', '\\', ']', '^', '|'].contains c

def readName (cs : List Char) : Option (List Char) := do
  let text ← Utf8.decode? (percentDecode cs)
  let mapped ← text.toList.mapM mapNameChar
  let labels ← (parts mapped.flatten).mapM asciiLabel
  let name := ['.'].intercalate labels
  if name.isEmpty || name.any isForbidden then none else return name

def unbracket : List Char → Option (List Char)
  | '[' :: rest => if rest.getLast? = some ']' then some rest.dropLast else none
  | _ => none

def readHost (cs : List Char) : Option Host :=
  if cs.head? = some '[' then (unbracket cs).bind readV6
  else do
    let name ← readName cs
    if endsInNumber name then readV4 name else return .name name

def readOtherHost (cs : List Char) : Option Host :=
  if cs.head? = some '[' then (unbracket cs).bind readV6
  else
    if cs.any fun c => isForbidden c && !isControl c && c != '%' then none
    else if cs.any fun c => ['\x00', '\t', '\n', '\r'].contains c then none
    else some (.name (percentEncode controlSet cs))

end HttpBridge.Url
