import HttpBridge.Unicode.Cases
import HttpBridge.Unicode.Categories
import HttpBridge.Unicode.Kinds
import HttpBridge.Unicode.Scripts

namespace HttpBridge.Pattern

inductive CharSet
  | empty
  | ranges (bounds : List (Nat × Nat))
  | union (a b : CharSet)
  | intersection (a b : CharSet)
  | difference (a b : CharSet)
  | complement (a : CharSet)
  | caseless (a : CharSet)
  | asciiCaseless (a : CharSet)

namespace CharSet

def asciiForms (n : Nat) : List Nat :=
  if 0x41 ≤ n && n ≤ 0x5A then [n, n + 0x20]
  else if 0x61 ≤ n && n ≤ 0x7A then [n, n - 0x20]
  else [n]

def holds : CharSet → Nat → Bool
  | empty, _ => false
  | ranges bounds, n => bounds.any fun b => b.1 ≤ n && n ≤ b.2
  | union a b, n => a.holds n || b.holds n
  | intersection a b, n => a.holds n && b.holds n
  | difference a b, n => a.holds n && !b.holds n
  | complement a, n => !a.holds n
  | caseless a, n => (Unicode.caseForms n).any a.holds
  | asciiCaseless a, n => (asciiForms n).any a.holds

def single (n : Nat) : CharSet := ranges [(n, n)]

def symmetric (a b : CharSet) : CharSet :=
  union (difference a b) (difference b a)

def complementIf (negated : Bool) (a : CharSet) : CharSet :=
  if negated then complement a else a

def unionAll : List CharSet → CharSet
  | [] => empty
  | [a] => a
  | a :: rest => union a (unionAll rest)

def weight : CharSet → Nat
  | empty => 0
  | ranges bounds => (bounds.filter fun b => 0x80 ≤ b.2).length
  | union a b | intersection a b | difference a b => a.weight + b.weight
  | complement a => a.weight + 4
  | caseless a => a.weight
  | asciiCaseless a => a.weight

def ofTable (t : Unicode.Table) : CharSet :=
  ranges (Text.Ranges.ofText t.ranges).bounds

def tableOf (tables : List Unicode.Table) (name : String) : Option CharSet :=
  (tables.find? (·.names.contains name)).map ofTable

def tablesOf (tables : List Unicode.Table) (names : List String) : CharSet :=
  unionAll (names.filterMap (tableOf tables))

def asciiDigits : CharSet := ranges [(0x30, 0x39)]

def asciiSpaces : CharSet := ranges [(0x09, 0x0D), (0x20, 0x20)]

def asciiWords : CharSet := ranges [(0x30, 0x39), (0x41, 0x5A), (0x5F, 0x5F), (0x61, 0x7A)]

def digits : CharSet := tablesOf Unicode.categories ["nd"]

def spaces : CharSet := tablesOf Unicode.kinds ["whitespace"]

def words : CharSet :=
  union (union asciiWords (tablesOf Unicode.kinds ["alphabetic", "joincontrol"]))
    (tablesOf Unicode.categories ["mn", "mc", "me", "nd", "pc"])

def alphabetic : CharSet := tablesOf Unicode.kinds ["alphabetic"]

def numeric : CharSet := tablesOf Unicode.categories ["nd", "nl", "no"]

end CharSet

def categoryGroups : List (List String × List String) :=
  [(["l", "letter"], ["lu", "ll", "lt", "lm", "lo"]),
   (["lc", "casedletter"], ["lu", "ll", "lt"]),
   (["m", "mark", "combiningmark"], ["mn", "mc", "me"]),
   (["n", "number"], ["nd", "nl", "no"]),
   (["p", "punctuation", "punct"], ["pc", "pd", "ps", "pe", "pi", "pf", "po"]),
   (["s", "symbol"], ["sm", "sc", "sk", "so"]),
   (["z", "separator"], ["zs", "zl", "zp"])]

def assigned : CharSet :=
  .unionAll (Unicode.categories.map CharSet.ofTable)

def category? (name : String) : Option CharSet :=
  if name = "any" then some (.ranges [(0, 0x10FFFF)])
  else if name = "assigned" then some assigned
  else if name = "ascii" then some (.ranges [(0, 0x7F)])
  else if name = "cn" || name = "unassigned" then some (.complement assigned)
  else if name = "c" || name = "other" then
    some (.union (.complement assigned) (.tablesOf Unicode.categories ["cc", "cf", "co"]))
  else match categoryGroups.find? (·.1.contains name) with
    | some group => some (.tablesOf Unicode.categories group.2)
    | none => CharSet.tableOf Unicode.categories name

def script? (name : String) : Option CharSet :=
  CharSet.tableOf Unicode.scripts name

def propertyName (cs : List Char) : String :=
  let small := cs.map Char.toLower
  let bare := match small with
    | 'i' :: 's' :: rest => rest
    | all => all
  let name := bare.filter fun c => c != ' ' && c != '_' && c != '-' && c.toNat < 0x80
  if bare.length < small.length && name == ['c'] then "isc" else String.ofList name

/-- Names that stand for a category although properties have them too. -/
def categoryFirst : List String := ["cf", "sc", "lc"]

def bareProperty? (name : String) : Option CharSet :=
  let kind := if categoryFirst.contains name then none else CharSet.tableOf Unicode.kinds name
  (kind.or (category? name)).or (script? name)

def property? (cs : List Char) : Option (CharSet × Bool) :=
  let named (name value : List Char) : Option CharSet :=
    let name := propertyName name
    if name = "gc" || name = "generalcategory" then category? (propertyName value)
    else if ["sc", "script", "scx", "scriptextensions"].contains name then
      script? (propertyName value)
    else none
  let (before, after) := cs.span fun c => c != '='
  if before.getLast? = some '!' && !after.isEmpty then
    (named before.dropLast (after.drop 1)).map fun s => (s, true)
  else match cs.span fun c => c != ':' with
    | (before, _ :: value) => (named before value).map fun s => (s, false)
    | _ =>
      match after with
      | _ :: value => (named before value).map fun s => (s, false)
      | [] => (bareProperty? (propertyName cs)).map fun s => (s, false)

end HttpBridge.Pattern
