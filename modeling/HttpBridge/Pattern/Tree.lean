namespace HttpBridge.Pattern

inductive Flag
  | caseless
  | multiLine
  | dotAll
  | lazy
  | unicode
  | crlf
  | spaced
  deriving DecidableEq, Repr

abbrev FlagChange := Flag × Bool

/-- A character, and whether it was written as two digits that may also stand for a byte. -/
structure Literal where
  char : Char
  isByte : Bool
  deriving DecidableEq, Repr

inductive Kind
  | digit
  | space
  | word
  deriving DecidableEq, Repr

inductive Assertion
  | lineStart
  | lineEnd
  | textStart
  | textEnd
  | boundary
  | noBoundary
  | wordStart
  | wordEnd
  | wordStartHalf
  | wordEndHalf
  deriving DecidableEq, Repr

inductive SetOp
  | intersection
  | difference
  | symmetric
  deriving DecidableEq, Repr

inductive SetTree
  | literal (l : Literal)
  | range (low high : Literal)
  | named (ranges : List (Nat × Nat)) (negated : Bool)
  | property (name : List Char) (negated : Bool)
  | kind (k : Kind) (negated : Bool)
  | bracketed (negated : Bool) (inner : SetTree)
  | union (items : List SetTree)
  | op (op : SetOp) (left right : SetTree)

inductive Tree
  | flags (changes : List FlagChange)
  | literal (l : Literal)
  | dot
  | assertion (a : Assertion)
  | set (s : SetTree)
  | repetition (inner : Tree) (least : Nat) (most : Option Nat)
  | group (changes : List FlagChange) (inner : Tree)
  | concat (items : List Tree)
  | alternate (items : List Tree)

namespace SetTree

mutual

def depth : SetTree → Nat
  | .bracketed _ inner => inner.depth + 1
  | .union items =>
    match items with
    | [] => 0
    | [item] => item.depth
    | items => depthOfAll items + 1
  | .op _ left right => max left.depth right.depth + 1
  | _ => 0

def depthOfAll : List SetTree → Nat
  | [] => 0
  | item :: items => max item.depth (depthOfAll items)

end

end SetTree

namespace Tree

mutual

def depth : Tree → Nat
  | .set s => s.depth
  | .repetition inner _ _ => inner.depth + 1
  | .group _ inner => inner.depth + 1
  | .concat items =>
    match items with
    | [] => 0
    | [item] => item.depth
    | items => depthOfAll items + 1
  | .alternate items => depthOfAll items + 1
  | _ => 0

def depthOfAll : List Tree → Nat
  | [] => 0
  | item :: items => max item.depth (depthOfAll items)

end

end Tree

end HttpBridge.Pattern
