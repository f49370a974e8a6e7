import FlowPlan.Proofs.Calendar

namespace FlowPlan

namespace Date

open Calendar

variable {d next last : Date}

/-- The day after: the next one of the month, or else the first one of the next month or year. -/
def next? (d : Date) : Option Date :=
  (ofParts? d.year d.month (d.day + 1)).or
    ((ofParts? d.year (d.month + 1) 1).or (ofParts? (d.year + 1) 1 1))

def later? (d : Date) : ℕ → Option Date
  | 0 => some d
  | days + 1 => (d.later? days).bind next?

/-- The parts of a date make up the date again, and nothing else. -/
theorem ofParts?_eq_some_iff {year : ℤ} {month day : ℕ} :
    ofParts? year month day = some d ↔ d.year = year ∧ d.month = month ∧ d.day = day := by
  unfold ofParts?
  split
  · rename_i hdate
    rw [Option.some_inj]
    constructor
    · rintro rfl
      exact ⟨rfl, rfl, rfl⟩
    · rintro ⟨rfl, rfl, rfl⟩
      rfl
  · rename_i hnone
    refine ⟨nofun, ?_⟩
    rintro ⟨rfl, rfl, rfl⟩
    exact absurd d.isDate hnone

theorem ofParts?_eq_none_iff {year : ℤ} {month day : ℕ} :
    ofParts? year month day = none ↔ ¬IsDate year month day := by
  -- the parts make up a date just if there is such a day
  unfold ofParts?
  split
  · rename_i hdate
    exact ⟨nofun, fun hnone => absurd hdate hnone⟩
  · rename_i hnone
    exact ⟨fun _ => hnone, fun _ => rfl⟩

/-- Where the month does not go on, the day is its last one. -/
theorem day_eq_of_not_isDate (d : Date) (h : ¬IsDate d.year d.month (d.day + 1)) :
    d.day = monthLength d.year d.month := by
  obtain ⟨hyear, hmonth, hday, hlast⟩ := d.isDate
  by_contra hne
  exact h ⟨hyear, hmonth, by omega, by omega⟩

theorem one_le_monthLength (year : ℤ) (month : ℕ) : 1 ≤ monthLength year month := by
  unfold monthLength
  split_ifs <;> omega

/-- Where the year does not go on, the month is its last one. -/
theorem month_eq_of_not_isDate (d : Date) (h : ¬IsDate d.year (d.month + 1) 1) : d.month = 12 := by
  obtain ⟨hyear, hmonth, -⟩ := d.isDate
  have hlength := one_le_monthLength d.year (d.month + 1)
  by_contra hne
  exact h ⟨hyear, by omega, le_refl 1, hlength⟩

/-- The year after is in the calendar unless the year is the last one. -/
theorem year_eq_of_not_isDate (d : Date) (h : ¬IsDate (d.year + 1) 1 1) : d.year = lastYear := by
  obtain ⟨⟨hfirst, hlast⟩, -⟩ := d.isDate
  have hlength := one_le_monthLength (d.year + 1) 1
  by_contra hne
  exact h ⟨by omega, by omega, le_refl 1, hlength⟩

/-- The next date is one day on. The cases are those of the calendar: within a month, from one month
to the next, from one year to the next. -/
theorem dayNumber_next? (h : d.next? = some next) : next.dayNumber = d.dayNumber + 1 := by
  have hmonths := daysBeforeMonth_succ d.year d.isDate.2.1.1
  unfold next? at h
  rcases Option.or_eq_some_iff.mp h with hday | ⟨hday, hrest⟩
  · -- the next day of the month
    obtain ⟨hyear, hmonth, hnext⟩ := ofParts?_eq_some_iff.mp hday
    unfold dayNumber
    rw [hyear, hmonth, hnext]
    omega
  have hlast := d.day_eq_of_not_isDate (ofParts?_eq_none_iff.mp hday)
  rcases Option.or_eq_some_iff.mp hrest with hmonth | ⟨hmonth, hyear⟩
  · -- the first day of the next month
    obtain ⟨hyear, hmonth, hnext⟩ := ofParts?_eq_some_iff.mp hmonth
    unfold dayNumber
    rw [hyear, hmonth, hnext]
    omega
  · -- the first day of the next year
    have htwelve := d.month_eq_of_not_isDate (ofParts?_eq_none_iff.mp hmonth)
    obtain ⟨hyear, hmonth, hnext⟩ := ofParts?_eq_some_iff.mp hyear
    have hyears := daysBeforeYear_succ d.year
    have hwhole : daysBeforeMonth d.year (12 + 1) = yearLength d.year :=
      daysBeforeMonth_thirteen d.year
    rw [htwelve] at hmonths hlast
    have hjanuary : daysBeforeMonth (d.year + 1) 1 = 0 := rfl
    unfold dayNumber
    rw [hyear, hmonth, hnext, htwelve]
    omega

/-- Only the last day of the calendar has no day after it. -/
theorem dayNumber_le_of_next?_eq_none (h : d.next? = none) (other : Date) :
    other.dayNumber ≤ d.dayNumber := by
  unfold next? at h
  obtain ⟨hday, hrest⟩ := Option.or_eq_none_iff.mp h
  obtain ⟨hmonth, hyear⟩ := Option.or_eq_none_iff.mp hrest
  -- no day, month or year comes after those of the date
  have hday_last := d.day_eq_of_not_isDate (ofParts?_eq_none_iff.mp hday)
  have hmonth_last := d.month_eq_of_not_isDate (ofParts?_eq_none_iff.mp hmonth)
  have hyear_last := d.year_eq_of_not_isDate (ofParts?_eq_none_iff.mp hyear)
  obtain ⟨⟨-, hyear_le⟩, ⟨-, hmonth_le⟩, -, hday_le⟩ := other.isDate
  rw [← not_lt, ← before_iff]
  unfold Before
  rintro (hlater | ⟨hyear, hlater | ⟨hmonth, hlater⟩⟩)
  · omega
  · omega
  · rw [← hyear, ← hmonth] at hday_le
    omega

/-- So many dates on is so many days on. -/
theorem dayNumber_later? {days : ℕ} (h : d.later? days = some last) :
    last.dayNumber = d.dayNumber + days := by
  induction days generalizing last with
  | zero =>
    cases h
    simp
  | succ days ih =>
    obtain ⟨middle, hmiddle, hlast⟩ := Option.bind_eq_some_iff.mp h
    have hstep := dayNumber_next? hlast
    have hbefore := ih hmiddle
    omega

/-- The calendar goes as far as any of its dates. -/
theorem exists_later? {days : ℕ} (h : d.dayNumber + days ≤ last.dayNumber) :
    ∃ found, d.later? days = some found := by
  induction days with
  | zero => exact ⟨d, rfl⟩
  | succ days ih =>
    obtain ⟨middle, hmiddle⟩ := ih (by omega)
    have hnumber := dayNumber_later? hmiddle
    cases hnext : middle.next? with
    | none =>
      have hend := dayNumber_le_of_next?_eq_none hnext last
      omega
    | some found => exact ⟨found, Option.bind_eq_some_iff.mpr ⟨middle, hmiddle, hnext⟩⟩

/-- What is some days later comes no later than a date when its number does not. -/
theorem exists_later?_not_before_iff {days : ℕ} :
    (∃ day, d.later? days = some day ∧ ¬last.Before day) ↔ d.dayNumber + days ≤ last.dayNumber := by
  constructor
  · rintro ⟨day, hday, hle⟩
    rw [before_iff, not_lt, dayNumber_later? hday] at hle
    exact hle
  · intro h
    obtain ⟨day, hday⟩ := exists_later? h
    refine ⟨day, hday, ?_⟩
    rw [before_iff, not_lt, dayNumber_later? hday]
    exact h

/-- The numbers of all days are within those of the first and the last year. -/
theorem dayNumber_mem_range (d : Date) :
    daysBeforeYear firstYear < d.dayNumber ∧ d.dayNumber ≤ daysBeforeYear (lastYear + 1) := by
  obtain ⟨⟨hfirst, hlast⟩, -⟩ := d.isDate
  obtain ⟨hlower, hupper⟩ := d.dayNumber_le_daysBeforeYear
  constructor
  · exact (daysBeforeYear_le hfirst).trans_lt hlower
  · exact hupper.trans (daysBeforeYear_le (Int.add_le_add_right hlast 1))

end Date

end FlowPlan
