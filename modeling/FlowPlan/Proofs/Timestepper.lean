import FlowPlan.Proofs.Result
import FlowPlan.Proofs.Succession
import FlowPlan.Timestepper
import Mathlib.Data.Set.Card

namespace FlowPlan

namespace Timestepper

variable {timestepper : Timestepper}

theorem validate_eq_ok_iff :
    timestepper.validate = .ok () ↔
      timestepper.timestep ≠ 0 ∧ ¬timestepper.stop.Before timestepper.start := by
  have hnone : timestepper.validate = .ok () ↔ timestepper.invalidity? = none := by
    unfold validate
    cases timestepper.invalidity? with
    | none => simp
    | some details => simp
  rw [hnone, invalidity?, refusal_eq_none_iff, refusal_eq_none_iff]
  exact and_congr_right fun _ => and_iff_left rfl

theorem stepCount_eq_zero
    (h : timestepper.timestep = 0 ∨ timestepper.stop.Before timestepper.start) :
    timestepper.stepCount = 0 := by
  have hnone : timestepper.stop.dayNumber - timestepper.start.dayNumber < 0 ∨
      timestepper.timestep = 0 := by
    rcases h with hzero | hback
    · exact Or.inr hzero
    · rw [Date.before_iff] at hback
      exact Or.inl (by omega)
  unfold stepCount
  exact if_pos hnone

/-- A schedule that runs forward has the steps that fit between its dates, and the first. -/
theorem stepCount_eq (hstep : timestepper.timestep ≠ 0)
    (hforward : ¬timestepper.stop.Before timestepper.start) :
    timestepper.stepCount =
      (timestepper.stop.dayNumber - timestepper.start.dayNumber).toNat /
        timestepper.timestep.toNat + 1 := by
  rw [Date.before_iff] at hforward
  have hsome : ¬(timestepper.stop.dayNumber - timestepper.start.dayNumber < 0 ∨
      timestepper.timestep = 0) := by
    rw [not_or]
    exact ⟨by omega, hstep⟩
  unfold stepCount
  exact if_neg hsome

/-- A schedule is valid exactly when it has a step. -/
theorem stepCount_pos_iff : 0 < timestepper.stepCount ↔ timestepper.validate = .ok () := by
  rw [validate_eq_ok_iff, ← not_or]
  constructor
  · intro hpos hinvalid
    rw [stepCount_eq_zero hinvalid] at hpos
    exact Nat.lt_irrefl 0 hpos
  · intro hvalid
    obtain ⟨hstep, hforward⟩ := not_or.mp hvalid
    rw [stepCount_eq hstep hforward]
    exact Nat.succ_pos _

/-- Whether a step falls on a day that does not come after the last one. -/
def Reaches (timestepper : Timestepper) (step : ℕ) : Prop :=
  ∃ day, timestepper.start.later? (step * timestepper.timestep.toNat) = some day ∧
    ¬timestepper.stop.Before day

/-- The steps below the count are those that start by the last date. -/
theorem lt_stepCount_iff (hstep : timestepper.timestep ≠ 0) {step : ℕ} :
    step < timestepper.stepCount ↔ timestepper.Reaches step := by
  -- the division is by the length of a step, which is not zero
  have hpos : 0 < timestepper.timestep.toNat := by
    rw [Nat.pos_iff_ne_zero]
    exact fun hzero => hstep (UInt32.toNat_inj.mp hzero)
  unfold Reaches
  rw [Date.exists_later?_not_before_iff]
  by_cases hback : timestepper.stop.Before timestepper.start
  · -- even the first day is too late
    rw [stepCount_eq_zero (Or.inr hback)]
    rw [Date.before_iff] at hback
    omega
  · rw [stepCount_eq hstep hback, Nat.lt_succ_iff, Nat.le_div_iff_mul_le hpos]
    rw [Date.before_iff] at hback
    omega

theorem encard_reaches (hstep : timestepper.timestep ≠ 0) :
    {step | timestepper.Reaches step}.encard = timestepper.stepCount := by
  have hfirst : {step | timestepper.Reaches step} = Finset.range timestepper.stepCount := by
    ext step
    rw [Set.mem_ofPred_eq, ← lt_stepCount_iff hstep, Finset.coe_range, Set.mem_Iio]
  rw [hfirst, Set.encard_coe_eq_coe_finsetCard, Finset.card_range]

/-! ### In machine words -/

/-- The longest duration, in seconds: in milliseconds it is still a signed word. -/
def longestDuration : ℤ :=
  Int64.maxValue.toInt / 1000

def duration? (a b : Date) : Option Int64 :=
  let seconds := (b.dayNumber - a.dayNumber) * 86400
  if -longestDuration ≤ seconds ∧ seconds ≤ longestDuration then some (.ofInt seconds) else none

def unsigned? (n : Int64) : Option USize :=
  if n.toInt.toNat < USize.size then some (.ofNat n.toInt.toNat) else none

def successor? (n : USize) : Option USize :=
  if n.toNat + 1 < USize.size then some (n + 1) else none

/-- The number of steps in machine words. There is none where an operation leaves its words. -/
def stepCountInWords? (timestepper : Timestepper) : Option USize := do
  let seconds ← duration? timestepper.start timestepper.stop
  let days := seconds / 86400
  -- dates that go back do not overflow: there are no steps between them
  if days < 0 then some 0
  else
    let days ← unsigned? days
    if timestepper.timestep = 0 then some 0
    else successor? (days / timestepper.timestep.toUSize)

/-- Any two dates are less than two hundred million days apart. -/
theorem natAbs_dayNumber_sub_lt (a b : Date) :
    (b.dayNumber - a.dayNumber).natAbs < 200000000 := by
  have ha := a.dayNumber_mem_range
  have hb := b.dayNumber_mem_range
  have hspan : Calendar.daysBeforeYear (Calendar.lastYear + 1) -
      Calendar.daysBeforeYear Calendar.firstYear < 200000000 := by
    decide
  omega

/-- The distance of two dates in seconds does not overflow, over all the dates that there are. -/
theorem exists_duration? (a b : Date) :
    ∃ seconds, duration? a b = some seconds ∧
      (seconds / 86400).toInt = b.dayNumber - a.dayNumber := by
  -- the dates lie less than 200 million days apart
  have hspan := natAbs_dayNumber_sub_lt a b
  have hlongest : longestDuration = 9223372036854775 := by decide
  have hfits : -longestDuration ≤ (b.dayNumber - a.dayNumber) * 86400 ∧
      (b.dayNumber - a.dayNumber) * 86400 ≤ longestDuration := by
    omega
  have hseconds : (Int64.ofInt ((b.dayNumber - a.dayNumber) * 86400)).toInt =
      (b.dayNumber - a.dayNumber) * 86400 :=
    Int64.toInt_ofInt_of_le (by omega) (by omega)
  refine ⟨_, if_pos hfits, ?_⟩
  have hday : (86400 : Int64).toInt = 86400 := by decide
  -- dividing machine words only overflows at the least of them
  have hnot_minimum : Int64.ofInt ((b.dayNumber - a.dayNumber) * 86400) ≠ Int64.minValue := by
    intro hsame
    have hminimum : Int64.minValue.toInt = -9223372036854775808 := by decide
    rw [hsame, hminimum] at hseconds
    omega
  rw [Int64.toInt_div_of_ne_left _ _ hnot_minimum, hseconds, hday]
  exact Int.mul_tdiv_cancel _ (by decide)

theorem exists_unsigned? {n : Int64} (h : n.toInt.toNat < USize.size) :
    ∃ word, unsigned? n = some word ∧ word.toNat = n.toInt.toNat := by
  refine ⟨_, if_pos h, ?_⟩
  exact USize.toNat_ofNat_of_lt h

theorem exists_successor? {n : USize} (h : n.toNat + 1 < USize.size) :
    ∃ word, successor? n = some word ∧ word.toNat = n.toNat + 1 := by
  refine ⟨_, if_pos h, ?_⟩
  rw [USize.toNat_add, USize.toNat_one]
  exact Nat.mod_eq_of_lt h

/-- The count of the steps does not overflow, if that of the days does not. -/
theorem exists_successor?_div {days : USize} (h : days.toNat + 1 < USize.size)
    (timestep : UInt32) :
    ∃ words, successor? (days / timestep.toUSize) = some words ∧
      words.toNat = days.toNat / timestep.toNat + 1 := by
  have hquotient : (days / timestep.toUSize).toNat = days.toNat / timestep.toNat := by
    rw [USize.toNat_div, UInt32.toNat_toUSize]
  have hroom : (days / timestep.toUSize).toNat + 1 < USize.size := by
    have hle := Nat.div_le_self days.toNat timestep.toNat
    omega
  rw [← hquotient]
  exact exists_successor? hroom

/-- No operation leaves its words, for any dates of the calendar and any timestep. -/
theorem exists_stepCountInWords? (timestepper : Timestepper) :
    ∃ words, timestepper.stepCountInWords? = some words ∧
      words.toNat = timestepper.stepCount := by
  have hspan := natAbs_dayNumber_sub_lt timestepper.start timestepper.stop
  have hsize := USize.le_size
  obtain ⟨seconds, hduration, hdays⟩ := exists_duration? timestepper.start timestepper.stop
  have hback : seconds / 86400 < 0 ↔ timestepper.stop.Before timestepper.start := by
    rw [Int64.lt_iff_toInt_lt, hdays, Date.before_iff]
    exact sub_neg
  unfold stepCountInWords?
  simp only [hduration, Option.bind_eq_bind, Option.bind_some]
  -- the words take the same turns as the numbers, and each conversion has room enough
  by_cases hbefore : timestepper.stop.Before timestepper.start
  · rw [stepCount_eq_zero (Or.inr hbefore)]
    exact ⟨0, if_pos (hback.mpr hbefore), USize.toNat_zero⟩
  · have hfits : (seconds / 86400).toInt.toNat < USize.size := by omega
    obtain ⟨days, hunsigned, hvalue⟩ := exists_unsigned? hfits
    rw [if_neg (mt hback.mp hbefore), hunsigned, Option.bind_some]
    by_cases hzero : timestepper.timestep = 0
    · rw [stepCount_eq_zero (Or.inl hzero)]
      exact ⟨0, if_pos hzero, USize.toNat_zero⟩
    · have hroom : days.toNat + 1 < USize.size := by omega
      obtain ⟨words, hwords, hcount⟩ := exists_successor?_div hroom timestepper.timestep
      rw [if_neg hzero, hwords, stepCount_eq hzero hbefore, ← hdays, ← hvalue]
      exact ⟨words, rfl, hcount⟩

/-- The number of steps is the number of those that fall on a day up to the last one; there are none
in a schedule that is not valid. In machine words the count is the same, and none of its operations
overflows. -/
theorem stepCount_counts_reached (timestepper : Timestepper) :
    (0 < timestepper.timestep →
      {step | timestepper.Reaches step}.encard = timestepper.stepCount) ∧
    (timestepper.timestep = 0 ∨ timestepper.stop.Before timestepper.start →
      timestepper.stepCount = 0) ∧
    (0 < timestepper.stepCount ↔ timestepper.validate = .ok ()) ∧
    ∃ words, timestepper.stepCountInWords? = some words ∧
      words.toNat = timestepper.stepCount := by
  refine ⟨fun hpos => ?_, stepCount_eq_zero, stepCount_pos_iff,
    timestepper.exists_stepCountInWords?⟩
  exact encard_reaches (UInt32.pos_iff_ne_zero.mp hpos)

def january : Timestepper where
  start := ⟨2021, 1, 1, by decide⟩
  stop := ⟨2021, 1, 31, by decide⟩
  timestep := 7

def januaryBackwards : Timestepper :=
  { january with start := january.stop, stop := january.start }

theorem stepCount_counts_reached_january :
    (0 < january.timestep ∧ {step | january.Reaches step}.encard = 5 ∧
      january.validate = .ok () ∧
      ∃ words, january.stepCountInWords? = some words ∧ words.toNat = 5) ∧
    januaryBackwards.stop.Before januaryBackwards.start ∧ januaryBackwards.stepCount = 0 := by
  obtain ⟨hreached, -, hvalid, hwords⟩ := stepCount_counts_reached january
  have hcount : january.stepCount = 5 := by decide
  rw [hcount] at hreached hvalid hwords
  have hpos : 0 < january.timestep := by decide
  have hback : januaryBackwards.stop.Before januaryBackwards.start := by decide
  exact ⟨⟨hpos, hreached hpos, hvalid.mp (by decide), hwords⟩, hback,
    (stepCount_counts_reached januaryBackwards).2.1 (Or.inr hback)⟩

end Timestepper

end FlowPlan
