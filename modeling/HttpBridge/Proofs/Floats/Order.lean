import HttpBridge.Proofs.Floats.Shape

namespace HttpBridge.Floats

open Float.Model (UnpackedFloat)
open Float.Model.UnpackedFloat

theorem isNaN_eq (x : Float) : x.isNaN = (shape x).isNaN :=
  rfl

theorem isFinite_eq (x : Float) : x.isFinite = (shape x).isFinite :=
  rfl

theorem lt_iff {x y : Float} : x < y ↔ (shape x).compare (shape y) = some .lt := by
  change decide ((shape x).lt (shape y) = true) = true ↔ _
  simp [UnpackedFloat.lt]

theorem le_iff {x y : Float} :
    x ≤ y ↔ (shape x).compare (shape y) = some .lt ∨ (shape x).compare (shape y) = some .eq := by
  change decide ((shape x).le (shape y) = true) = true ↔ _
  rw [decide_eq_true_iff, UnpackedFloat.le]
  rcases (shape x).compare (shape y) with _ | _ | _ | _ <;> decide

theorem ne_notANumber {f : UnpackedFloat} : f ≠ .notANumber ↔ f.isNaN = false := by
  rw [ne_eq, ← isNaN_iff, Bool.not_eq_true]

theorem compare_swap (f g : UnpackedFloat) : (f.compare g).map Ordering.swap = g.compare f := by
  have finite (e e' : Int) (m m' : Nat) : ((compare e e').then (compare m m')).swap =
      (compare e' e).then (compare m' m) := by
    rw [Ordering.swap_then, Int.compare_swap, Nat.compare_swap]
  cases f with
  | notANumber => cases g <;> rfl
  | zero s => cases g with
    | infinity s' | finite s' => cases s' <;> rfl
    | _ => rfl
  | infinity s => cases g with
    | infinity s' => cases s <;> cases s' <;> rfl
    | _ => cases s <;> rfl
  | finite s m e => cases g with
    | notANumber | zero => cases s <;> rfl
    | infinity s' => cases s <;> cases s' <;> rfl
    | finite s' m' e' => cases s <;> cases s' <;> simp [UnpackedFloat.compare, finite]

theorem compare_eq_gt_iff {f g : UnpackedFloat} :
    f.compare g = some .gt ↔ g.compare f = some .lt := by
  rw [← compare_swap]
  rcases g.compare f with _ | _ | _ | _ <;> decide

theorem compare_eq_none_iff {f g : UnpackedFloat} :
    f.compare g = none ↔ f = .notANumber ∨ g = .notANumber := by
  cases f with
  | notANumber => simp [UnpackedFloat.compare]
  | zero s => cases g with
    | infinity s' | finite s' => cases s' <;> simp [UnpackedFloat.compare]
    | _ => simp [UnpackedFloat.compare]
  | infinity s => cases g with
    | infinity s' => simp [UnpackedFloat.compare]
    | _ => cases s <;> simp [UnpackedFloat.compare]
  | finite s m e => cases g with
    | notANumber | zero => cases s <;> simp [UnpackedFloat.compare]
    | infinity s' | finite s' => cases s <;> cases s' <;> simp [UnpackedFloat.compare]

theorem not_lt_iff {x y : Float} (number : y.isNaN = false) : ¬x < y ↔ y ≤ x ∨ x.isNaN := by
  have number : shape y ≠ .notANumber := ne_notANumber.mpr number
  have nan : x.isNaN = true ↔ (shape x).compare (shape y) = none := by
    rw [compare_eq_none_iff, or_iff_left number, isNaN_eq, isNaN_iff]
  rw [lt_iff, le_iff, nan, ← compare_swap (shape x)]
  rcases (shape x).compare (shape y) with _ | _ | _ | _ <;> decide

theorem isNaN_of_le {x y : Float} (h : x ≤ y) : x.isNaN = false := by
  rw [isNaN_eq, ← ne_notANumber]
  intro nan
  have none : (shape x).compare (shape y) = none := compare_eq_none_iff.mpr (.inl nan)
  rw [le_iff, none] at h
  rcases h with h | h <;> cases h

theorem ne_gt_of_le {o : Option Ordering} (h : o = some .lt ∨ o = some .eq) : o ≠ some .gt := by
  rcases h with rfl | rfl <;> decide

theorem order_of_then {e₁ e₂ : Int} {m₁ m₂ : Nat}
    (h : some ((compare e₁ e₂).then (compare m₁ m₂)) ≠ some .gt) :
    e₁ < e₂ ∨ e₁ = e₂ ∧ m₁ ≤ m₂ := by
  rcases Int.lt_trichotomy e₁ e₂ with lower | rfl | higher
  · exact .inl lower
  · refine .inr ⟨rfl, Nat.le_of_not_lt fun longer => h ?_⟩
    rw [Int.compare_eq_eq.mpr rfl, Nat.compare_eq_gt.mpr longer]
    rfl
  · refine absurd ?_ h
    rw [Int.compare_eq_gt.mpr higher]
    rfl

end HttpBridge.Floats
