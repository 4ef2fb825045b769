namespace HttpBridge.Text

def hexValue (c : Char) : Option Nat :=
  if '0' ≤ c && c ≤ '9' then some (c.toNat - 48)
  else if 'a' ≤ c && c ≤ 'f' then some (c.toNat - 87)
  else if 'A' ≤ c && c ≤ 'F' then some (c.toNat - 55)
  else none

def hexNumber (cs : List Char) : Nat :=
  cs.foldl (fun n c => n * 16 + (hexValue c).getD 0) 0

def hexDigit (n : Nat) : Char :=
  Nat.digitChar (n % 16)

theorem hexValue_hexDigit (n : Nat) : hexValue (hexDigit n) = some (n % 16) := by
  have small : ∀ k < 16, hexValue (Nat.digitChar k) = some k := by decide
  exact small _ (Nat.mod_lt _ (by decide))

def hexCapital (n : Nat) : Char :=
  (hexDigit n).toUpper

theorem hexValue_hexCapital (n : Nat) : hexValue (hexCapital n) = some (n % 16) := by
  have small : ∀ k < 16, hexValue (Nat.digitChar k).toUpper = some k := by decide
  exact small _ (Nat.mod_lt _ (by decide))

end HttpBridge.Text
