import HttpBridge.Text.Ranges
/-!
Tables of characters, each under the names of a Unicode property value. Names are compared in small
letters, without blanks, hyphens and underscores.
-/

namespace HttpBridge.Unicode

structure Table where
  names : List String
  ranges : String

def Table.contains (t : Table) (c : Char) : Bool :=
  (Text.Ranges.ofText t.ranges).contains c

end HttpBridge.Unicode
