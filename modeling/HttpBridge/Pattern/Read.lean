import HttpBridge.Pattern.CharSet
import HttpBridge.Pattern.Tree
import HttpBridge.Text.Blank
/-!
Reading of pattern texts. A text that is no pattern has no tree; why it has none is not told.

In spaced patterns, blanks and comments may stand between the parts.
-/

namespace HttpBridge.Pattern

def dropSpace (inComment : Bool) : List Char → List Char
  | [] => []
  | c :: cs =>
    if inComment then dropSpace (c != '\n') cs
    else if Text.isBlank c then dropSpace false cs
    else if c == '#' then dropSpace true cs
    else c :: cs

def skip (spaced : Bool) (cs : List Char) : List Char :=
  if spaced then dropSpace false cs else cs

def braced (spaced : Bool) : Nat → List Char → Option (List Char × List Char)
  | 0, _ => none
  | fuel + 1, cs =>
    match skip spaced cs with
    | [] => none
    | '\x7d' :: rest => some ([], rest)
    | c :: rest => (braced spaced fuel rest).map fun (word, rest) => (c :: word, rest)

def hexDigitsAt (spaced : Bool) : Nat → List Char → Option (List Char × List Char)
  | 0, cs => some ([], cs)
  | _ + 1, [] => none
  | n + 1, c :: cs =>
    if (Text.hexValue c).isSome then
      (hexDigitsAt spaced n (skip spaced cs)).map fun (digits, rest) => (c :: digits, rest)
    else none

def charOf (digits : List Char) : Option Char :=
  let n := Text.hexNumber digits
  if n.isValidChar then some (Char.ofNat n) else none

def hexLiteral (spaced : Bool) (width : Nat) (cs : List Char) : Option (Literal × List Char) :=
  match skip spaced cs with
  | '\x7b' :: rest => do
    let (digits, rest) ← braced spaced (rest.length + 1) rest
    if digits.isEmpty || !digits.all fun c => (Text.hexValue c).isSome then none
    else return (⟨← charOf digits, false⟩, skip spaced rest)
  | cs => do
    let (digits, rest) ← hexDigitsAt spaced width cs
    return (⟨← charOf digits, width == 2⟩, rest)

inductive Primitive
  | literal (l : Literal)
  | assertion (a : Assertion)
  | property (name : List Char) (negated : Bool)
  | kind (k : Kind) (negated : Bool)

def verbatim (c : Char) : Primitive :=
  .literal ⟨c, false⟩

def propertyEscape (spaced negated : Bool) (cs : List Char) : Option (Primitive × List Char) :=
  match skip spaced cs with
  | [] => none
  | '\x7b' :: rest =>
    (braced spaced (rest.length + 1) rest).map fun (name, rest) => (.property name negated, rest)
  | c :: rest => if c = '\\' then none else some (.property [c] negated, skip spaced rest)

def isBoundaryLetter (c : Char) : Bool :=
  c.isAlpha || c == '-'

def boundaryName (spaced : Bool) : Nat → List Char → Option (List Char × List Char)
  | 0, _ => none
  | fuel + 1, cs =>
    match cs with
    | '\x7d' :: rest => some ([], rest)
    | c :: rest =>
      if isBoundaryLetter c then
        (boundaryName spaced fuel (skip spaced rest)).map fun (word, rest) => (c :: word, rest)
      else none
    | [] => none

def boundaryNames : List (String × Assertion) :=
  [("start", .wordStart), ("end", .wordEnd), ("start-half", .wordStartHalf),
   ("end-half", .wordEndHalf)]

/-- Reads a boundary, which may have a name in braces. Braces that hold no name count how often the
boundary is repeated. -/
def boundary (spaced : Bool) (cs : List Char) : Option (Primitive × List Char) :=
  match cs with
  | '\x7b' :: rest =>
    match skip spaced rest with
    | [] => none
    | c :: more =>
      if !isBoundaryLetter c then some (.assertion .boundary, cs)
      else do
        let (name, rest) ← boundaryName spaced (more.length + 2) (c :: more)
        return (.assertion (← boundaryNames.lookup (String.ofList name)), rest)
  | cs => some (.assertion .boundary, cs)

def metaChars : List Char :=
  ['\\', '.', '+', '*', '?', '(', ')', '|', '[', ']', '\x7b', '\x7d', '^', '$', '#', '&', '-', '~']

def isEscapable (c : Char) : Bool :=
  metaChars.contains c || (c.toNat < 0x80 && !c.isAlphanum && c != '<' && c != '>')

def escapedChars : List (Char × Char) :=
  [('a', '\x07'), ('f', '\x0c'), ('t', '\t'), ('n', '\n'), ('r', '\r'), ('v', '\x0b')]

def escapedKinds : List (Char × Kind × Bool) :=
  [('d', .digit, false), ('D', .digit, true), ('s', .space, false), ('S', .space, true),
   ('w', .word, false), ('W', .word, true)]

def escapedAssertions : List (Char × Assertion) :=
  [('A', .textStart), ('z', .textEnd), ('B', .noBoundary), ('<', .wordStart), ('>', .wordEnd)]

def escape (spaced : Bool) : List Char → Option (Primitive × List Char)
  | [] => none
  | c :: cs =>
    let hex (width : Nat) :=
      (hexLiteral spaced width cs).map fun (l, rest) => (Primitive.literal l, rest)
    match c with
    | 'x' => hex 2
    | 'u' => hex 4
    | 'U' => hex 8
    | 'p' => propertyEscape spaced false cs
    | 'P' => propertyEscape spaced true cs
    | 'b' => boundary spaced cs
    | c =>
      if isEscapable c then some (verbatim c, cs)
      else match escapedKinds.lookup c, escapedChars.lookup c, escapedAssertions.lookup c with
        | some (k, negated), _, _ => some (.kind k negated, cs)
        | none, some e, _ => some (verbatim e, cs)
        | none, none, some a => some (.assertion a, cs)
        | none, none, none => none

def setItem (spaced : Bool) : List Char → Option (Primitive × List Char)
  | [] => none
  | '\\' :: cs => escape spaced cs
  | c :: cs => some (verbatim c, cs)

def Primitive.setTree : Primitive → Option SetTree
  | .literal l => some (.literal l)
  | .property name negated => some (.property name negated)
  | .kind k negated => some (.kind k negated)
  | .assertion _ => none

def Primitive.literal? : Primitive → Option Literal
  | .literal l => some l
  | _ => none

/-- Reads an item of a class or a range of them. A hyphen before a bracket or another hyphen makes
no range. -/
def setRange (spaced : Bool) (cs : List Char) : Option (SetTree × List Char) := do
  let (first, rest) ← setItem spaced cs
  match skip spaced rest with
  | [] => none
  | '-' :: more =>
    let next := (skip spaced more).head?
    if next = some ']' || next = some '-' then
      return (← first.setTree, '-' :: more)
    else
      let (second, rest) ← setItem spaced (skip spaced more)
      let low ← first.literal?
      let high ← second.literal?
      if low.char ≤ high.char then return (.range low high, rest) else none
  | rest => return (← first.setTree, rest)

def asciiClasses : List (String × List (Nat × Nat)) :=
  [("alnum", [(0x30, 0x39), (0x41, 0x5A), (0x61, 0x7A)]),
   ("alpha", [(0x41, 0x5A), (0x61, 0x7A)]),
   ("ascii", [(0x00, 0x7F)]),
   ("blank", [(0x09, 0x09), (0x20, 0x20)]),
   ("cntrl", [(0x00, 0x1F), (0x7F, 0x7F)]),
   ("digit", [(0x30, 0x39)]),
   ("graph", [(0x21, 0x7E)]),
   ("lower", [(0x61, 0x7A)]),
   ("print", [(0x20, 0x7E)]),
   ("punct", [(0x21, 0x2F), (0x3A, 0x40), (0x5B, 0x60), (0x7B, 0x7E)]),
   ("space", [(0x09, 0x0D), (0x20, 0x20)]),
   ("upper", [(0x41, 0x5A)]),
   ("word", [(0x30, 0x39), (0x41, 0x5A), (0x5F, 0x5F), (0x61, 0x7A)]),
   ("xdigit", [(0x30, 0x39), (0x41, 0x46), (0x61, 0x66)])]

def asciiClass (cs : List Char) : Option (SetTree × List Char) := do
  let rest ← Text.dropStart? ['[', ':'] cs
  let (negated, rest) := match rest with
    | '^' :: rest => (true, rest)
    | rest => (false, rest)
  let name := rest.takeWhile (· != ':')
  let rest ← Text.dropStart? [':', ']'] (rest.dropWhile (· != ':'))
  let ranges ← asciiClasses.lookup (String.ofList name)
  return (.named ranges negated, rest)

def leadingHyphens (spaced : Bool) : Nat → List Char → Option (Nat × List Char)
  | 0, _ => none
  | _ + 1, [] => none
  | fuel + 1, '-' :: cs =>
    (leadingHyphens spaced fuel (skip spaced cs)).map fun (n, cs) => (n + 1, cs)
  | _ + 1, cs => some (0, cs)

def setStart (spaced : Bool) (cs : List Char) : Option (Bool × List SetTree × List Char) := do
  let (negated, cs) := match skip spaced cs with
    | '^' :: cs => (true, skip spaced cs)
    | cs => (false, cs)
  let (hyphens, cs) ← leadingHyphens spaced (cs.length + 1) cs
  match hyphens, cs with
  | 0, ']' :: cs =>
    let cs := skip spaced cs
    if cs.isEmpty then none else return (negated, [.literal ⟨']', false⟩], cs)
  | n, cs => return (negated, List.replicate n (.literal ⟨'-', false⟩), cs)

inductive SetFrame
  | bracket (negated : Bool) (before : List SetTree)
  | op (op : SetOp) (left : SetTree)

def closeOp (item : SetTree) : List SetFrame → SetTree × List SetFrame
  | .op op left :: frames => (.op op left item, frames)
  | frames => (item, frames)

def setOp? : List Char → Option (SetOp × List Char)
  | '&' :: '&' :: cs => some (.intersection, cs)
  | '-' :: '-' :: cs => some (.difference, cs)
  | '~' :: '~' :: cs => some (.symmetric, cs)
  | _ => none

def setLoop (spaced : Bool) :
    Nat → List SetFrame → List SetTree → List Char → Option (SetTree × List Char)
  | 0, _, _, _ => none
  | fuel + 1, frames, items, cs =>
    match skip spaced cs with
    | [] => none
    | '[' :: rest =>
      match asciiClass ('[' :: rest) with
      | some (item, rest) => setLoop spaced fuel frames (item :: items) rest
      | none => do
        let (negated, inner, rest) ← setStart spaced rest
        setLoop spaced fuel (.bracket negated items :: frames) inner rest
    | ']' :: rest =>
      match closeOp (.union items.reverse) frames with
      | (inner, [.bracket negated _]) => some (.bracketed negated inner, rest)
      | (inner, .bracket negated before :: frames) =>
        setLoop spaced fuel frames (.bracketed negated inner :: before) rest
      | _ => none
    | cs =>
      match setOp? cs with
      | some (op, rest) =>
        let (left, frames) := closeOp (.union items.reverse) frames
        setLoop spaced fuel (.op op left :: frames) [] rest
      | none => do
        let (item, rest) ← setRange spaced cs
        setLoop spaced fuel frames (item :: items) rest

def setTree (spaced : Bool) (cs : List Char) : Option (SetTree × List Char) := do
  let (negated, items, rest) ← setStart spaced cs
  setLoop spaced (cs.length + 1) [.bracket negated []] items rest

def flag? (c : Char) : Option Flag :=
  match c with
  | 'i' => some .caseless
  | 'm' => some .multiLine
  | 's' => some .dotAll
  | 'U' => some .lazy
  | 'u' => some .unicode
  | 'R' => some .crlf
  | 'x' => some .spaced
  | _ => none

def flagChanges (changes : List FlagChange) (off last : Bool) :
    List Char → Option (List FlagChange × Char × List Char)
  | [] => none
  | c :: cs =>
    if c = ':' || c = ')' then (if last then none else some (changes, c, cs))
    else if c = '-' then (if off then none else flagChanges changes true true cs)
    else match flag? c with
      | none => none
      | some f =>
        if changes.any (·.1 == f) then none
        else flagChanges (changes ++ [(f, !off)]) off false cs

def isNameStart (c : Char) : Bool :=
  c == '_' || CharSet.alphabetic.holds c.toNat

def isNameChar (c : Char) : Bool :=
  c == '_' || c == '.' || c == '[' || c == ']' || CharSet.alphabetic.holds c.toNat
    || CharSet.numeric.holds c.toNat

def groupName (cs : List Char) : Option (List Char × List Char) :=
  let name := cs.takeWhile (· != '>')
  match name, cs.dropWhile (· != '>') with
  | first :: more, _ :: rest =>
    if isNameStart first && more.all isNameChar then some (name, rest) else none
  | _, _ => none

inductive GroupStart
  | flags (changes : List FlagChange)
  | group (changes : List FlagChange) (name : Option (List Char))

def groupStart (spaced : Bool) (cs : List Char) : Option (GroupStart × List Char) :=
  match skip spaced cs with
  | '?' :: '=' :: _ | '?' :: '!' :: _ | '?' :: '<' :: '=' :: _ | '?' :: '<' :: '!' :: _ => none
  | '?' :: 'P' :: '<' :: rest | '?' :: '<' :: rest =>
    (groupName rest).map fun (name, rest) => (.group [] (some name), rest)
  | '?' :: rest => do
    let (changes, close, rest) ← flagChanges [] false false rest
    if close = ')' then
      if changes.isEmpty then none else return (.flags changes, rest)
    else return (.group changes none, rest)
  | rest => some (.group [] none, rest)

def uint32? (digits : List Char) : Option Nat :=
  let n := digits.foldl (fun n c => n * 10 + (c.toNat - '0'.toNat)) 0
  if n < UInt32.size then some n else none

def countDigits (spaced : Bool) : Nat → List Char → List Char × List Char
  | 0, cs => ([], cs)
  | _ + 1, [] => ([], [])
  | fuel + 1, c :: cs =>
    if c.isDigit then
      let (digits, rest) := countDigits spaced fuel (skip spaced cs)
      (c :: digits, rest)
    else ([], c :: cs)

/-- Reads a count; a missing one is `some none`, one that is too large is `none`. -/
def count (spaced : Bool) (cs : List Char) : Option (Option Nat × List Char) := do
  let cs := Text.trimStart cs
  let (digits, rest) := countDigits spaced cs.length cs
  let rest := skip spaced (Text.trimStart rest)
  if digits.isEmpty then return (none, rest)
  else return (some (← uint32? digits), rest)

def counts (spaced : Bool) (cs : List Char) : Option (Nat × Option Nat × List Char) := do
  let (least, rest) ← count spaced (skip spaced cs)
  let least ← least
  match rest with
  | '\x7d' :: rest => return (least, some least, rest)
  | ',' :: rest =>
    match skip spaced rest with
    | '\x7d' :: rest => return (least, none, rest)
    | rest =>
      let (most, rest) ← count spaced rest
      let most ← most
      match rest with
      | '\x7d' :: rest => if least ≤ most then return (least, some most, rest) else none
      | _ => none
  | _ => none

def dropLazyMark : List Char → List Char
  | '?' :: cs => cs
  | cs => cs

inductive Frame
  | group (changes : List FlagChange) (spaced : Bool) (before : List Tree)
  | branches (done : List Tree)

structure State where
  frames : List Frame
  items : List Tree
  spaced : Bool
  names : List (List Char)

namespace State

def push (st : State) (t : Tree) : State :=
  { st with items := t :: st.items }

def repeatLast (st : State) (least : Nat) (most : Option Nat) : Option State :=
  match st.items with
  | [] => none
  | .flags _ :: _ => none
  | t :: items => some { st with items := .repetition t least most :: items }

def closeBranches (st : State) : Tree × List Frame :=
  let last := Tree.concat st.items.reverse
  match st.frames with
  | .branches done :: frames => (.alternate (last :: done).reverse, frames)
  | frames => (last, frames)

def nextBranch (st : State) : State :=
  let last := Tree.concat st.items.reverse
  match st.frames with
  | .branches done :: frames =>
    { st with frames := .branches (last :: done) :: frames, items := [] }
  | frames => { st with frames := .branches [last] :: frames, items := [] }

def closeGroup (st : State) : Option State :=
  match st.closeBranches with
  | (inner, .group changes spaced before :: frames) =>
    some { st with frames, spaced, items := .group changes inner :: before }
  | _ => none

def spacing (changes : List FlagChange) (before : Bool) : Bool :=
  (changes.lookup .spaced).getD before

def openGroup (st : State) : GroupStart → Option State
  | .flags changes =>
    some { st.push (.flags changes) with spaced := spacing changes st.spaced }
  | .group changes name =>
    if name.any st.names.contains then none
    else some {
      frames := .group changes st.spaced st.items :: st.frames
      items := []
      spaced := spacing changes st.spaced
      names := name.toList ++ st.names }

def finish (st : State) : Option Tree :=
  match st.closeBranches with
  | (t, []) => some t
  | _ => none

end State

def primitiveTree : Primitive → Tree
  | .literal l => .literal l
  | .assertion a => .assertion a
  | .property name negated => .set (.property name negated)
  | .kind k negated => .set (.kind k negated)

def step (st : State) (c : Char) (cs : List Char) : Option (State × List Char) :=
  match c with
  | '(' => do
    let (start, rest) ← groupStart st.spaced cs
    return (← st.openGroup start, rest)
  | ')' => do return (← st.closeGroup, cs)
  | '|' => some (st.nextBranch, cs)
  | '[' => do
    let (s, rest) ← setTree st.spaced cs
    return (st.push (.set s), rest)
  | '?' => do return (← st.repeatLast 0 (some 1), dropLazyMark cs)
  | '*' => do return (← st.repeatLast 0 none, dropLazyMark cs)
  | '+' => do return (← st.repeatLast 1 none, dropLazyMark cs)
  | '\x7b' => do
    let (least, most, rest) ← counts st.spaced cs
    return (← st.repeatLast least most, dropLazyMark (skip st.spaced rest))
  | '\\' => do
    let (p, rest) ← escape st.spaced cs
    return (st.push (primitiveTree p), rest)
  | '.' => some (st.push .dot, cs)
  | '^' => some (st.push (.assertion .lineStart), cs)
  | '$' => some (st.push (.assertion .lineEnd), cs)
  | c => some (st.push (.literal ⟨c, false⟩), cs)

def loop : Nat → State → List Char → Option Tree
  | 0, _, _ => none
  | fuel + 1, st, cs =>
    match skip st.spaced cs with
    | [] => st.finish
    | c :: cs => do
      let (st, rest) ← step st c cs
      loop fuel st rest

def depthLimit : Nat := 250

def readTree (s : String) : Option Tree := do
  let t ← loop (s.toList.length + 1) ⟨[], [], false, []⟩ s.toList
  if t.depth ≤ depthLimit then return t else none

end HttpBridge.Pattern
