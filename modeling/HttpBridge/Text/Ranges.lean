import HttpBridge.Text.Hex
import HttpBridge.Text.Parts

namespace HttpBridge.Text

structure Ranges where
  bounds : List (Nat × Nat)
  deriving DecidableEq, Repr

namespace Ranges

def ofWord (word : List Char) : Nat × Nat :=
  match splitWhere (· == '-') word with
  | [low, high] => (hexNumber low, hexNumber high)
  | _ => (hexNumber word, hexNumber word)

def ofText (table : String) : Ranges :=
  ⟨(words table.toList).map ofWord⟩

def contains (r : Ranges) (c : Char) : Bool :=
  r.bounds.any fun b => b.1 ≤ c.toNat && c.toNat ≤ b.2

end Ranges

end HttpBridge.Text
