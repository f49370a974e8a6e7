import Mathlib.Order.Compare

namespace FlowPlan

open Float.Model

/-- Whatever is not NaN can be compared, and the other way round with the opposite result. -/
theorem exists_compare {a b : UnpackedFloat} (ha : a.isNaN = false) (hb : b.isNaN = false) :
    ∃ order, a.compare b = some order ∧ b.compare a = some order.swap := by
  have hsign (s t : UnpackedFloat.Sign) : compare t s = (compare s t).swap := by
    cases s <;> cases t <;> rfl
  have hmagnitude (e f : Int) (m n : Nat) :
      (compare f e).then (compare n m) = ((compare e f).then (compare m n)).swap := by
    rw [Ordering.swap_then, ← Std.OrientedCmp.eq_swap, ← Std.OrientedCmp.eq_swap]
  -- values of different shapes compare by their signs; only finite ones of one sign by magnitude
  cases a with
  | notANumber => cases ha
  | infinity s =>
    cases b with
    | notANumber => cases hb
    | infinity t => exact ⟨_, rfl, congrArg some (hsign s t)⟩
    | _ => cases s <;> exact ⟨_, rfl, rfl⟩
  | zero s =>
    cases b with
    | notANumber => cases hb
    | zero t => exact ⟨_, rfl, rfl⟩
    | infinity t | finite t => cases t <;> exact ⟨_, rfl, rfl⟩
  | finite s m e =>
    cases b with
    | notANumber => cases hb
    | infinity t => cases t <;> cases s <;> exact ⟨_, rfl, rfl⟩
    | zero t => cases s <;> exact ⟨_, rfl, rfl⟩
    | finite t n f =>
      cases s <;> cases t
      · exact ⟨_, rfl, congrArg (fun order => some (Ordering.swap order)) (hmagnitude e f m n)⟩
      · exact ⟨_, rfl, rfl⟩
      · exact ⟨_, rfl, rfl⟩
      · exact ⟨_, rfl, congrArg some (hmagnitude e f m n)⟩

variable {a b : Float}

/-- Doubles compare as the values that they are decoded to. -/
theorem le_iff_compare :
    a ≤ b ↔ (a.toModel.unpack.compare b.toModel.unpack).any Ordering.isLE = true := by
  change decide (a.toModel ≤ b.toModel) = true ↔ _
  rw [decide_eq_true_iff]
  exact Iff.rfl

theorem lt_iff_compare :
    a < b ↔ a.toModel.unpack.compare b.toModel.unpack = some .lt := by
  change decide (a.toModel < b.toModel) = true ↔ _
  rw [decide_eq_true_iff]
  exact beq_iff_eq

theorem isNaN_eq_false_of_isFinite (h : a.isFinite = true) : a.isNaN = false := by
  change a.toModel.unpack.isFinite = true at h
  change a.toModel.unpack.isNaN = false
  cases hvalue : a.toModel.unpack with
  | notANumber =>
    rw [hvalue] at h
    cases h
  | _ => rfl

/-- Among numbers that are not NaN, a failed comparison leaves the opposite one. -/
theorem float_le_of_not_lt (ha : a.isNaN = false) (hb : b.isNaN = false) (h : ¬b < a) :
    a ≤ b := by
  obtain ⟨order, horder, hswap⟩ := exists_compare ha hb
  rw [lt_iff_compare, hswap] at h
  rw [le_iff_compare, horder]
  cases order with
  | gt => exact absurd rfl h
  | _ => rfl

theorem float_lt_of_not_le (ha : a.isNaN = false) (hb : b.isNaN = false) (h : ¬b ≤ a) :
    a < b := by
  obtain ⟨order, horder, hswap⟩ := exists_compare ha hb
  rw [le_iff_compare, hswap] at h
  rw [lt_iff_compare, horder]
  cases order with
  | lt => rfl
  | _ => exact absurd rfl h

end FlowPlan
