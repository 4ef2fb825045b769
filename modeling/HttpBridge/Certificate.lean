import HttpBridge.Base64
import HttpBridge.Text.Parts
/-!
Certificates in files: as nested blocks of bytes, each with a tag and a length, or as text with the
same bytes in base 64 between two marked lines. Only the outline of a certificate is checked.
-/

namespace HttpBridge.Certificate

structure Block where
  tag : UInt8
  content : List UInt8

def readLength : List UInt8 → Option (Nat × List UInt8)
  | [] => none
  | b :: bs =>
    if b < 0x80 then some (b.toNat, bs)
    else
      let n := b.toNat - 0x80
      if n = 0 || 4 < n || bs.length < n then none
      else some ((bs.take n).foldl (fun k c => k * 256 + c.toNat) 0, bs.drop n)

def readBlock : List UInt8 → Option (Block × List UInt8)
  | [] => none
  | tag :: bs =>
    match readLength bs with
    | some (n, rest) => if rest.length < n then none else some (⟨tag, rest.take n⟩, rest.drop n)
    | none => none

/-- Reads blocks up to the end; the first argument bounds their number. -/
def readBlocks : Nat → List UInt8 → Option (List Block)
  | _, [] => some []
  | 0, _ => none
  | fuel + 1, bs => do
    let (block, rest) ← readBlock bs
    return block :: (← readBlocks fuel rest)

def Block.inner (b : Block) : Option (List Block) :=
  readBlocks b.content.length b.content

def sequence : UInt8 := 0x30

def integer : UInt8 := 0x02

def bitString : UInt8 := 0x03

def version : UInt8 := 0xA0

def optionalTags : List (List UInt8) := [[0x81, 0xA1], [0x82, 0xA2], [0xA3]]

def optionalBlocks : List (List UInt8) → List UInt8 → Bool
  | _, [] => true
  | [], _ :: _ => false
  | choices :: rest, tag :: tags =>
    if choices.contains tag then optionalBlocks rest tags else optionalBlocks rest (tag :: tags)

/-- Tells whether the signed part has its fields: number, algorithm, issuer, validity, subject and
key. -/
def isSignedPart (b : Block) : Bool :=
  match b.inner with
  | none => false
  | some blocks =>
    let tags := blocks.map (·.tag)
    let tags := if tags.head? = some version then tags.tail else tags
    b.tag == sequence && tags.take 6 == [integer, sequence, sequence, sequence, sequence, sequence]
      && optionalBlocks optionalTags (tags.drop 6)

def isBinary (bs : List UInt8) : Bool :=
  match readBlock bs with
  | none => false
  | some (outer, _) =>
    match outer.tag == sequence, outer.inner with
    | true, some [signed, algorithm, signature] =>
      isSignedPart signed && algorithm.tag == sequence && signature.tag == bitString
    | _, _ => false

def textNames : List String := ["CERTIFICATE", "X509 CERTIFICATE", "TRUSTED CERTIFICATE"]

def mark (word name : String) : List Char :=
  ("-----" ++ word ++ " " ++ name ++ "-----").toList

def trimLine (line : List Char) : List Char :=
  (line.reverse.dropWhile fun c => c ≤ ' ').reverse

def blockLines (name : String) (lines : List (List Char)) : Option (List (List Char)) :=
  match lines.dropWhile (· != mark "BEGIN" name) with
  | _ :: rest =>
    if rest.contains (mark "END" name) then some (rest.takeWhile (· != mark "END" name)) else none
  | [] => none

def isText (bs : List UInt8) : Bool :=
  let text := (Utf8.decodeLossy bs).toList
  let lines := (Text.splitWhere (· == '\n') text).map trimLine
  match textNames.findSome? (blockLines · lines) with
  | none => false
  | some body =>
    match Base64.decode (String.ofList body.flatten) with
    | .ok bytes => isBinary bytes
    | .error _ => false

end HttpBridge.Certificate
