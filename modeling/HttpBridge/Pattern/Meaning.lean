import HttpBridge.Pattern.Expr
import HttpBridge.Pattern.Read
/-!
What patterns mean: the pattern to match with that a tree stands for. Flags hold from where they
stand to the end of their group. Where the Unicode flag is off, a pattern speaks of bytes, and only
what stays within ASCII is allowed.
-/

namespace HttpBridge.Pattern

structure Modes where
  caseless : Bool
  multiLine : Bool
  dotAll : Bool
  unicode : Bool
  crlf : Bool

namespace Modes

def usual : Modes := ⟨false, false, false, true, false⟩

def change (m : Modes) (c : FlagChange) : Modes :=
  match c.1 with
  | .caseless => { m with caseless := c.2 }
  | .multiLine => { m with multiLine := c.2 }
  | .dotAll => { m with dotAll := c.2 }
  | .unicode => { m with unicode := c.2 }
  | .crlf => { m with crlf := c.2 }
  | .lazy | .spaced => m

def changeAll (m : Modes) (cs : List FlagChange) : Modes :=
  cs.foldl change m

def fold (m : Modes) (s : CharSet) : CharSet :=
  if !m.caseless then s
  else if m.unicode then .caseless s
  else .asciiCaseless s

/-- Adds other cases and takes the complement. The complement of a set of bytes is not ASCII. -/
def foldAndNegate (m : Modes) (negated : Bool) (s : CharSet) : Option CharSet :=
  if negated && !m.unicode then none else some (.complementIf negated (m.fold s))

def scalar (m : Modes) (l : Literal) : Option Nat :=
  if !m.unicode && l.isByte && 0x80 ≤ l.char.toNat then none else some l.char.toNat

def setScalar (m : Modes) (l : Literal) : Option Nat :=
  if !m.unicode && 0x80 ≤ l.char.toNat then none else some l.char.toNat

def words (m : Modes) : CharSet :=
  if m.unicode then CharSet.words else CharSet.asciiWords

def kind (m : Modes) (k : Kind) (negated : Bool) : Option CharSet :=
  if m.unicode then
    some <| .complementIf negated <| match k with
      | .digit => CharSet.digits
      | .space => CharSet.spaces
      | .word => CharSet.words
  else if negated then none
  else some <| match k with
    | .digit => CharSet.asciiDigits
    | .space => CharSet.asciiSpaces
    | .word => CharSet.asciiWords

def property (m : Modes) (name : List Char) (negated : Bool) : Option CharSet :=
  if !m.unicode then none
  else (property? name).bind fun (s, flipped) => m.foldAndNegate (negated != flipped) s

def look (m : Modes) : Assertion → Look
  | .lineStart => if m.multiLine then (if m.crlf then .crlfStart else .lineStart) else .start
  | .lineEnd => if m.multiLine then (if m.crlf then .crlfStop else .lineStop) else .stop
  | .textStart => .start
  | .textEnd => .stop
  | .boundary => .boundary m.words
  | .noBoundary => .noBoundary m.words
  | .wordStart => .wordStart m.words
  | .wordEnd => .wordStop m.words
  | .wordStartHalf => .wordStartHalf m.words
  | .wordEndHalf => .wordStopHalf m.words

def lineEnds (m : Modes) : CharSet :=
  if m.crlf then .ranges [(0x0A, 0x0A), (0x0D, 0x0D)] else .single 0x0A

def dot (m : Modes) : Option CharSet :=
  if !m.unicode then none
  else some (.complement (if m.dotAll then .empty else m.lineEnds))

end Modes

mutual

def SetTree.meaning (m : Modes) : SetTree → Option CharSet
  | .literal l => (m.setScalar l).map .single
  | .range low high => do return .ranges [(← m.setScalar low, ← m.setScalar high)]
  | .named ranges negated => m.foldAndNegate negated (.ranges ranges)
  | .property name negated => m.property name negated
  | .kind k negated => m.kind k negated
  | .bracketed negated inner => do m.foldAndNegate negated (← inner.meaning m)
  | .union items => (meaningOfSets m items).map .unionAll
  | .op op left right => do
    let a := m.fold (← left.meaning m)
    let b := m.fold (← right.meaning m)
    return match op with
      | .intersection => .intersection a b
      | .difference => .difference a b
      | .symmetric => .symmetric a b

def meaningOfSets (m : Modes) : List SetTree → Option (List CharSet)
  | [] => some []
  | s :: ss => do return (← s.meaning m) :: (← meaningOfSets m ss)

end

mutual

def Tree.meaning (m : Modes) : Tree → Option (Expr × Modes)
  | .flags changes => some (.empty, m.changeAll changes)
  | .literal l => do return (.set (m.fold (.single (← m.scalar l))), m)
  | .dot => do return (.set (← m.dot), m)
  | .assertion a => some (.look (m.look a), m)
  | .set s => do return (.set (← s.meaning m), m)
  | .repetition inner least most => do
    let (e, m) ← inner.meaning m
    return (.repetition e least most, m)
  | .group changes inner => do
    let (e, _) ← inner.meaning (m.changeAll changes)
    return (e, m)
  | .concat items => meaningOfConcat m items
  | .alternate items => meaningOfAlternate m items

def meaningOfConcat (m : Modes) : List Tree → Option (Expr × Modes)
  | [] => some (.empty, m)
  | t :: ts => do
    let (a, m) ← t.meaning m
    let (b, m) ← meaningOfConcat m ts
    return (.concat a b, m)

def meaningOfAlternate (m : Modes) : List Tree → Option (Expr × Modes)
  | [] => some (.set .empty, m)
  | t :: ts => do
    let (a, m) ← t.meaning m
    let (b, m) ← meaningOfAlternate m ts
    return (.alternate a b, m)

end

def exprOf (s : String) : Option Expr := do
  let (e, _) ← (← readTree s).meaning .usual
  if e.weight ≤ weightLimit then return e else none

end HttpBridge.Pattern

namespace HttpBridge

structure Pattern where
  text : String
  expr : Pattern.Expr
  sound : Pattern.exprOf text = some expr

namespace Pattern

def of? (text : String) : Option Pattern :=
  match h : exprOf text with
  | some expr => some ⟨text, expr, h⟩
  | none => none

def known (text : String) (h : (exprOf text).isSome = true) : Pattern :=
  ⟨text, (exprOf text).get h, (Option.some_get h).symm⟩

def isMatch (p : Pattern) (s : String) : Bool :=
  p.expr.isMatch s

end Pattern

end HttpBridge
