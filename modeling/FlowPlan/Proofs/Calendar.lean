import FlowPlan.Date.Basic
import Mathlib.Data.Int.Init
import Mathlib.Data.Int.Order.Basic
import Mathlib.Order.Monotone.Basic

namespace FlowPlan

namespace Calendar

def yearLength (year : ℤ) : ℕ :=
  if isLeap year then 366 else 365

theorem daysBeforeMonth_succ (year : ℤ) {month : ℕ} (hmonth : 1 ≤ month) :
    daysBeforeMonth year (month + 1) = daysBeforeMonth year month + monthLength year month := by
  obtain ⟨before, rfl⟩ : ∃ before, month = before + 1 := ⟨month - 1, by omega⟩
  rfl

/-- Months begin in their order. -/
theorem daysBeforeMonth_le (year : ℤ) {first second : ℕ} (hfirst : 1 ≤ first)
    (h : first ≤ second) : daysBeforeMonth year first ≤ daysBeforeMonth year second := by
  induction second, h using Nat.le_induction with
  | base => exact le_refl _
  | succ month hle ih =>
    rw [daysBeforeMonth_succ year (hfirst.trans hle)]
    exact ih.trans (Nat.le_add_right _ _)

theorem daysBeforeMonth_thirteen (year : ℤ) : daysBeforeMonth year 13 = yearLength year := by
  unfold yearLength
  cases hleap : isLeap year <;> simp [daysBeforeMonth, monthLength, hleap]

/-- A year begins where the one before it ends. -/
theorem daysBeforeYear_succ (year : ℤ) :
    daysBeforeYear (year + 1) = daysBeforeYear year + yearLength year := by
  unfold daysBeforeYear yearLength isLeap
  -- a year is leap where the fourth, the hundredth and the four hundredth of years count
  split
  · rename_i hleap
    simp only [Bool.and_eq_true, Bool.or_eq_true, decide_eq_true_eq] at hleap
    omega
  · rename_i hcommon
    simp only [Bool.and_eq_true, Bool.or_eq_true, decide_eq_true_eq] at hcommon
    omega

theorem daysBeforeYear_le {first second : ℤ} (h : first ≤ second) :
    daysBeforeYear first ≤ daysBeforeYear second := by
  induction second, h using Int.leInduction with
  | base => exact le_refl _
  | succ year _ ih =>
    rw [daysBeforeYear_succ]
    omega

end Calendar

namespace Date

open Calendar

variable {a b : Date}

theorem dayNumber_lt_of_day_lt (hyear : a.year = b.year) (hmonth : a.month = b.month)
    (hday : a.day < b.day) : a.dayNumber < b.dayNumber := by
  unfold dayNumber
  rw [hyear, hmonth]
  omega

/-- The last day of a month comes before the first day of a later one. -/
theorem dayNumber_lt_of_month_lt (hyear : a.year = b.year) (hmonth : a.month < b.month) :
    a.dayNumber < b.dayNumber := by
  obtain ⟨-, ⟨ha_month, -⟩, -, ha_day⟩ := a.isDate
  obtain ⟨-, -, hb_day, -⟩ := b.isDate
  have hnext := daysBeforeMonth_succ a.year ha_month
  have hlater := daysBeforeMonth_le a.year (Nat.le_add_left 1 a.month) hmonth
  unfold dayNumber
  rw [← hyear]
  omega

/-- The number of a day lies between the numbers at which its year begins and ends. -/
theorem dayNumber_le_daysBeforeYear (d : Date) :
    daysBeforeYear d.year < d.dayNumber ∧ d.dayNumber ≤ daysBeforeYear (d.year + 1) := by
  obtain ⟨-, ⟨hmonth, hlast⟩, hday, hlength⟩ := d.isDate
  have hnext := daysBeforeMonth_succ d.year hmonth
  have hend := daysBeforeMonth_le d.year (Nat.le_add_left 1 d.month) (Nat.succ_le_succ hlast)
  rw [daysBeforeMonth_thirteen] at hend
  rw [daysBeforeYear_succ]
  unfold dayNumber
  omega

theorem dayNumber_lt_of_year_lt (hyear : a.year < b.year) : a.dayNumber < b.dayNumber := by
  calc
    a.dayNumber ≤ daysBeforeYear (a.year + 1) := (dayNumber_le_daysBeforeYear a).2
    _ ≤ daysBeforeYear b.year := daysBeforeYear_le hyear
    _ < b.dayNumber := (dayNumber_le_daysBeforeYear b).1

theorem Before.dayNumber_lt (h : a.Before b) : a.dayNumber < b.dayNumber := by
  rcases h with hyear | ⟨hyear, hmonth | ⟨hmonth, hday⟩⟩
  · exact dayNumber_lt_of_year_lt hyear
  · exact dayNumber_lt_of_month_lt hyear hmonth
  · exact dayNumber_lt_of_day_lt hyear hmonth hday

/-- One date is before another when it has the smaller number. The other direction is by trichotomy:
of two different dates one is before the other. -/
theorem before_iff : a.Before b ↔ a.dayNumber < b.dayNumber := by
  refine ⟨Before.dayNumber_lt, fun h => ?_⟩
  -- days are counted in their order, so it is enough to exclude the other way round
  by_contra hnot
  have hle : b.dayNumber ≤ a.dayNumber := by
    by_cases hsame : b.Before a
    · exact Int.le_of_lt hsame.dayNumber_lt
    · -- neither comes before the other, so they are the same day
      unfold Before at hnot hsame
      have hyear : b.year = a.year := by omega
      have hmonth : b.month = a.month := by omega
      have hday : b.day = a.day := by omega
      unfold dayNumber
      rw [hyear, hmonth, hday]
  omega

end Date

end FlowPlan
