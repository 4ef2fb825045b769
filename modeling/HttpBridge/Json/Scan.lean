import HttpBridge.Json.Number
/-!
Tokens of JSON texts. A scalar is read twice at once: strictly, for its value, and loosely, for a
reader that passes over it. Only the strict reading minds halves of surrogate pairs and numbers out
of range, and only it tells a number that is cut off from one that is written wrongly.
-/

namespace HttpBridge.Json

/-- What a reader gets from a scalar, and what is wrong for one that passes over it. -/
structure Reading (α : Type) where
  value : Except Flaw α
  skip : Option Flaw

inductive Token
  | openList
  | closeList
  | openObject
  | closeObject
  | comma
  | colon
  | text (reading : Reading String)
  | scalar (reading : Reading Scalar)
  | stray

/-- A place inside a text: between characters, after a backslash, within the four digits of an
escape, or after the first half of a surrogate pair. -/
inductive Place
  | plain
  | escape (high : Option Nat)
  | hex (high : Option Nat) (left value : Nat)
  | low (high : Nat)

structure Draft where
  read : List Char
  flaw : Option Flaw

namespace Draft

def add (d : Draft) (c : Char) : Draft :=
  { d with read := c :: d.read }

def spoil (d : Draft) (f : Flaw) : Draft :=
  { d with flaw := d.flaw.or (some f) }

def leave (d : Draft) (high : Option Nat) : Draft :=
  if high.isSome then d.spoil .openPair else d

def close (d : Draft) : Reading String :=
  match d.flaw with
  | some f => ⟨.error f, none⟩
  | none => ⟨.ok (String.ofList d.read.reverse), none⟩

def fail (d : Draft) (f : Flaw) : Reading String :=
  ⟨.error (d.flaw.getD f), some f⟩

end Draft

def isHighHalf (n : Nat) : Bool :=
  0xD800 ≤ n && n ≤ 0xDBFF

def isLowHalf (n : Nat) : Bool :=
  0xDC00 ≤ n && n ≤ 0xDFFF

def joinHalves (high low : Nat) : Nat :=
  (high - 0xD800) * 0x400 + (low - 0xDC00) + 0x10000

def takeUnit (d : Draft) (high : Option Nat) (n : Nat) : Draft × Place :=
  match high with
  | some h =>
    if isLowHalf n then (d.add (Char.ofNat (joinHalves h n)), .plain)
    else (d.spoil .loneHalf, .plain)
  | none =>
    if isHighHalf n then (d, .low n)
    else if isLowHalf n then (d.spoil .loneHalf, .plain)
    else (d.add (Char.ofNat n), .plain)

def simpleEscape (c : Char) : Option Char :=
  match c with
  | '"' => some '"'
  | '\\' => some '\\'
  | '/' => some '/'
  | 'b' => some '\x08'
  | 'f' => some '\x0c'
  | 'n' => some '\n'
  | 'r' => some '\r'
  | 't' => some '\t'
  | _ => none

def utf8Length (cs : List Char) : Nat :=
  cs.foldl (fun n c => n + c.utf8Size) 0

/-- Reads a text after its opening quote. Four digits that the rest is too short for are cut off,
whatever they are. -/
def scanText : Draft → Place → List Char → Reading String × List Char
  | d, _, [] => (d.fail .endInText, [])
  | d, .escape high, c :: cs =>
    if c = 'u' then scanText d (.hex high 3 0) cs
    else match simpleEscape c with
      | some e => scanText ((d.leave high).add e) .plain cs
      | none => ((d.leave high).fail .badEscape, cs)
  | d, .hex high left value, c :: cs =>
    match Text.hexValue c with
    | none => (d.fail (if left < utf8Length (c :: cs) then .badEscape else .endInText), cs)
    | some v =>
      match left with
      | 0 =>
        let (d, place) := takeUnit d high (value * 16 + v)
        scanText d place cs
      | left + 1 => scanText d (.hex high left (value * 16 + v)) cs
  | d, .low high, c :: cs =>
    if c = '\\' then scanText d (.escape (some high)) cs
    else if c = '"' then ((d.spoil .openPair).close, cs)
    else if c < ' ' then ((d.spoil .openPair).fail .controlCharacter, cs)
    else scanText ((d.spoil .openPair).add c) .plain cs
  | d, .plain, c :: cs =>
    if c = '\\' then scanText d (.escape none) cs
    else if c = '"' then (d.close, cs)
    else if c < ' ' then (d.fail .controlCharacter, cs)
    else scanText (d.add c) .plain cs

def scanName (s : Scalar) : List Char → List Char → Reading Scalar × List Char
  | [], cs => (⟨.ok s, none⟩, cs)
  | _ :: _, [] => (⟨.error .endInValue, some .endInValue⟩, [])
  | n :: ns, c :: cs =>
    if n = c then scanName s ns cs else (⟨.error .noName, some .noName⟩, cs)

def brokenNumber (cs : List Char) : Reading Scalar × List Char :=
  (⟨.error (if cs.isEmpty then .endInValue else .badNumber), some .badNumber⟩, cs)

def isExponentMark (c : Char) : Bool :=
  c == 'e' || c == 'E'

def scanExponent (n : Numeral) : List Char → Reading Scalar × List Char
  | [] => (⟨n.scalar, none⟩, [])
  | c :: cs =>
    if !isExponentMark c then (⟨n.scalar, none⟩, c :: cs)
    else
      let (negative, cs) := match cs with
        | '-' :: cs => (true, cs)
        | '+' :: cs => (false, cs)
        | cs => (false, cs)
      let digits := cs.takeWhile Char.isDigit
      if digits.isEmpty then brokenNumber cs
      else
        let n := { n with exponent := some ⟨negative, digits⟩ }
        (⟨n.scalar, none⟩, cs.dropWhile Char.isDigit)

def scanFraction (n : Numeral) : List Char → Reading Scalar × List Char
  | '.' :: cs =>
    let digits := cs.takeWhile Char.isDigit
    if digits.isEmpty then brokenNumber cs
    else scanExponent { n with fraction := digits } (cs.dropWhile Char.isDigit)
  | cs => scanExponent n cs

def scanNumber (negative : Bool) : List Char → Reading Scalar × List Char
  | '0' :: cs =>
    if (cs.head?.map Char.isDigit).getD false then brokenNumber cs
    else scanFraction ⟨negative, ['0'], [], none⟩ cs
  | cs =>
    let digits := cs.takeWhile Char.isDigit
    if digits.isEmpty then brokenNumber cs
    else scanFraction ⟨negative, digits, [], none⟩ (cs.dropWhile Char.isDigit)

def isBlank (c : Char) : Bool :=
  c == ' ' || c == '\n' || c == '\t' || c == '\r'

def scanToken (c : Char) (cs : List Char) : Token × List Char :=
  let scalar (r : Reading Scalar × List Char) : Token × List Char := (.scalar r.1, r.2)
  match c with
  | '[' => (.openList, cs)
  | ']' => (.closeList, cs)
  | '\x7b' => (.openObject, cs)
  | '\x7d' => (.closeObject, cs)
  | ',' => (.comma, cs)
  | ':' => (.colon, cs)
  | '"' =>
    let (reading, rest) := scanText ⟨[], none⟩ .plain cs
    (.text reading, rest)
  | 'n' => scalar (scanName .null ['u', 'l', 'l'] cs)
  | 't' => scalar (scanName (.boolean true) ['r', 'u', 'e'] cs)
  | 'f' => scalar (scanName (.boolean false) ['a', 'l', 's', 'e'] cs)
  | '-' => scalar (scanNumber true cs)
  | c => if c.isDigit then scalar (scanNumber false (c :: cs)) else (.stray, cs)

def tokensUpTo : Nat → List Char → List Token
  | 0, _ => []
  | _ + 1, [] => []
  | fuel + 1, c :: cs =>
    if isBlank c then tokensUpTo fuel cs
    else (scanToken c cs).1 :: tokensUpTo fuel (scanToken c cs).2

def tokens (s : String) : List Token :=
  tokensUpTo s.toList.length s.toList

end HttpBridge.Json
