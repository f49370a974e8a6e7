import FlowPlan.Date.Text
import FlowPlan.Proofs.Result
import Mathlib.Data.Int.Notation

namespace FlowPlan.Date

/-- A digit is neither blank nor a sign. -/
theorem isBlank_of_isDigit {c : Char} (h : c.isDigit = true) : Text.isBlank c = false := by
  obtain ⟨hlow, hhigh⟩ := Char.isDigit_iff_toNat.mp h
  have hzero : '0'.toNat = 48 := rfl
  have hnine : '9'.toNat = 57 := rfl
  unfold Text.isBlank Text.inRanges
  simp only [Text.blankRanges, List.any_cons, List.any_nil, Bool.or_false, Bool.or_eq_false_iff,
    Bool.and_eq_false_iff, decide_eq_false_iff_not]
  omega

section

variable {digits rest : List Char} {value limit : ℕ}

/-- A number does not get smaller by its further digits. -/
theorem le_ofDigitChars : value ≤ Nat.ofDigitChars 10 digits value := by
  induction digits generalizing value with
  | nil => exact Nat.le_refl value
  | cons c digits ih =>
    rw [Nat.ofDigitChars_cons]
    have hstep : value ≤ 10 * value + (c.toNat - '0'.toNat) := by omega
    exact Nat.le_trans hstep ih

/-- Digits in front of a text are all read, and what they come to is carried on. -/
theorem moreDigits_append (hdigits : ∀ c ∈ digits, c.isDigit = true)
    (hbound : Nat.ofDigitChars 10 digits value ≤ maxNumber) :
    moreDigits (digits.length + limit) value (digits ++ rest) =
      moreDigits limit (Nat.ofDigitChars 10 digits value) rest := by
  induction digits generalizing value with
  | nil => rw [List.length_nil, Nat.zero_add, Nat.ofDigitChars_nil, List.nil_append]
  | cons c digits ih =>
    obtain ⟨hdigit, hrest⟩ := List.forall_mem_cons.mp hdigits
    rw [Nat.ofDigitChars_cons, Nat.mul_comm] at hbound
    have hnext : ¬value * 10 + (c.toNat - '0'.toNat) > maxNumber :=
      Nat.not_lt.mpr (Nat.le_trans le_ofDigitChars hbound)
    rw [List.length_cons, Nat.add_right_comm, List.cons_append, moreDigits, if_pos hdigit]
    dsimp only
    rw [if_neg hnext, ih hrest hbound, Nat.ofDigitChars_cons, Nat.mul_comm]

/-- Where no digit follows, a number ends. -/
theorem moreDigits_end (hend : ∀ c ∈ rest.head?, c.isDigit = false) :
    moreDigits limit value rest = .ok (value, rest) := by
  cases limit with
  | zero => rfl
  | succ limit =>
    cases rest with
    | nil => rfl
    | cons c rest =>
      have hother : c.isDigit = false := hend c rfl
      rw [moreDigits, if_neg (by rw [hother]; decide)]

end

section

variable {width n : ℕ}

theorem isDigit_of_mem_padded {c : Char} (hmem : c ∈ padded width n) : c.isDigit = true := by
  rcases List.mem_append.mp hmem with hzero | hdigit
  · rw [List.eq_of_mem_replicate hzero]
    decide
  · exact Nat.isDigit_of_mem_toDigits (by decide) (by decide) hdigit

theorem ofDigitChars_padded : Nat.ofDigitChars 10 (padded width n) 0 = n := by
  unfold padded
  rw [Nat.ofDigitChars_append, Nat.ofDigitChars_replicate_zero, Nat.mul_zero,
    Nat.ofDigitChars_ten_toDigits]

/-- What fits into a width takes up just that width. -/
theorem length_padded (hdigits : (Nat.toDigits 10 n).length ≤ width) :
    (padded width n).length = width := by
  unfold padded
  rw [List.length_append, List.length_replicate]
  omega

theorem exists_padded_eq_cons (width n : ℕ) :
    ∃ c rest, padded width n = c :: rest ∧ c.isDigit = true := by
  cases hpadded : padded width n with
  | nil => exact absurd (List.append_eq_nil_iff.mp hpadded).2 Nat.toDigits_ne_nil
  | cons c rest =>
    exact ⟨c, rest, rfl, isDigit_of_mem_padded (hpadded ▸ List.mem_cons_self)⟩

theorem skipBlanks_padded_append {rest : List Char} :
    skipBlanks (padded width n ++ rest) = padded width n ++ rest := by
  obtain ⟨c, digits, hpadded, hdigit⟩ := exists_padded_eq_cons width n
  rw [hpadded, List.cons_append]
  exact List.dropWhile_cons_of_neg (by rw [isBlank_of_isDigit hdigit]; decide)

/-- A number is read up to where it ends. -/
theorem readNumber_padded_append {limit : ℕ} {rest : List Char}
    (hlimit : (padded width n).length ≤ limit) (hn : n ≤ maxNumber)
    (hend : ∀ c ∈ rest.head?, c.isDigit = false) :
    readNumber limit (padded width n ++ rest) = .ok (n, rest) := by
  -- the limit leaves room for further digits, but none of them follow
  obtain ⟨further, rfl⟩ := Nat.exists_eq_add_of_le hlimit
  have hread : moreDigits ((padded width n).length + further) 0 (padded width n ++ rest) =
      .ok (n, rest) := by
    rw [moreDigits_append (fun c => isDigit_of_mem_padded)
      (by rw [ofDigitChars_padded]; exact hn), ofDigitChars_padded]
    exact moreDigits_end hend
  obtain ⟨c, digits, hpadded, hdigit⟩ := exists_padded_eq_cons width n
  rw [hpadded] at hread ⊢
  rw [List.cons_append, readNumber, if_pos hdigit]
  exact hread

end

theorem dash_not_digit {rest : List Char} :
    ∀ c ∈ ('-' :: rest).head?, c.isDigit = false := by
  intro c hc
  cases hc
  decide

theorem readDash_cons {rest : List Char} : readDash ('-' :: rest) = .ok rest :=
  rfl

/-- A month or a day is read back from its two digits, whatever stands behind them but a digit. -/
theorem readPart_padded_append {highest n : ℕ} {rest : List Char} (hlow : 1 ≤ n)
    (hhigh : n ≤ highest) (hfits : n < 100) (hend : ∀ c ∈ rest.head?, c.isDigit = false) :
    readPart highest (padded 2 n ++ rest) = .ok (n, rest) := by
  have hmax : n ≤ maxNumber := Nat.le_of_lt (Nat.lt_trans hfits (by decide))
  have hdigits : (Nat.toDigits 10 n).length ≤ 2 :=
    (Nat.length_toDigits_le_iff (by decide) (by decide)).mpr hfits
  have hnumber : readNumber 2 (padded 2 n ++ rest) = .ok (n, rest) :=
    readNumber_padded_append (Nat.le_of_eq (length_padded hdigits)) hmax hend
  unfold readPart
  rw [skipBlanks_padded_append]
  refine bind_eq_ok_iff.mpr ⟨_, hnumber, ?_⟩
  exact if_pos ⟨hlow, hhigh⟩

/-- A year without a sign begins with a digit. -/
theorem readYear_padded_append {n : ℕ} {rest : List Char} (hfits : n < 10000) :
    readYear (padded 4 n ++ '-' :: rest) = .ok ((n : ℤ), '-' :: rest) := by
  have hdigits : (Nat.toDigits 10 n).length ≤ 4 :=
    (Nat.length_toDigits_le_iff (by decide) (by decide)).mpr hfits
  have hmax : n ≤ maxNumber := Nat.le_of_lt (Nat.lt_trans hfits (by decide))
  have hnumber : readNumber 4 (padded 4 n ++ '-' :: rest) = .ok (n, '-' :: rest) :=
    readNumber_padded_append (Nat.le_of_eq (length_padded hdigits)) hmax dash_not_digit
  obtain ⟨c, digits, hpadded, hdigit⟩ := exists_padded_eq_cons 4 n
  unfold readYear
  rw [skipBlanks_padded_append]
  -- a padded number starts with a digit, so neither sign is read
  split
  · rename_i hsign
    rw [hpadded] at hsign
    cases hsign
    cases hdigit
  · rename_i hsign
    rw [hpadded] at hsign
    cases hsign
    cases hdigit
  · exact bind_eq_ok_iff.mpr ⟨_, hnumber, rfl⟩

/-- A year is read back from its text: with a sign it may have any length, and without one it has
four digits. -/
theorem readYear_yearText_append {year : ℤ} {rest : List Char} (hyear : year.natAbs ≤ maxNumber) :
    readYear (yearText year ++ '-' :: rest) = .ok (year, '-' :: rest) := by
  -- a year with a sign may have as many digits as there are characters left
  have hnumber : readNumber (padded 4 year.natAbs ++ '-' :: rest).length
      (padded 4 year.natAbs ++ '-' :: rest) = .ok (year.natAbs, '-' :: rest) :=
    readNumber_padded_append (by rw [List.length_append]; exact Nat.le_add_right _ _) hyear
      dash_not_digit
  unfold yearText
  by_cases hshort : 0 ≤ year ∧ year ≤ 9999
  · have hfits : year.natAbs < 10000 := by omega
    have hvalue : (year.natAbs : ℤ) = year := Int.natAbs_of_nonneg hshort.1
    rw [if_pos hshort, readYear_padded_append hfits, hvalue]
  · rw [if_neg hshort]
    by_cases hnegative : year < 0
    · have hvalue : -(year.natAbs : ℤ) = year := by omega
      rw [if_pos hnegative]
      refine bind_eq_ok_iff.mpr ⟨_, hnumber, ?_⟩
      exact congrArg (fun value => Except.ok (value, '-' :: rest)) hvalue
    · have hvalue : (year.natAbs : ℤ) = year := by omega
      rw [if_neg hnegative]
      refine bind_eq_ok_iff.mpr ⟨_, hnumber, ?_⟩
      exact congrArg (fun value => Except.ok (value, '-' :: rest)) hvalue

theorem monthLength_le (year : ℤ) (month : ℕ) : Calendar.monthLength year month ≤ 31 := by
  unfold Calendar.monthLength
  split
  · split <;> decide
  · split <;> decide

/-- Each date is read back from its text. -/
theorem read_text (d : Date) : read d.text = .ok d := by
  obtain ⟨⟨hfirst, hlast⟩, ⟨hmonth, hmonth'⟩, hday, hday'⟩ := d.isDate
  unfold Calendar.firstYear at hfirst
  unfold Calendar.lastYear at hlast
  -- a day of any month is within the bound that days are read with
  have hlength : Calendar.monthLength d.year d.month ≤ 31 := monthLength_le d.year d.month
  have hyear : d.year.natAbs ≤ maxNumber := by
    unfold maxNumber
    omega
  have htext : d.text.toList =
      yearText d.year ++ '-' :: (padded 2 d.month ++ '-' :: (padded 2 d.day ++ [])) := by
    unfold text
    rw [String.toList_ofList, List.append_nil]
    simp only [List.append_assoc, List.cons_append]
  unfold read
  rw [htext]
  refine bind_eq_ok_iff.mpr ⟨_, readYear_yearText_append hyear, ?_⟩
  refine refusal_eq_ok_iff.mpr ⟨by omega, ?_⟩
  refine bind_eq_ok_iff.mpr ⟨_, readDash_cons, ?_⟩
  refine bind_eq_ok_iff.mpr
    ⟨_, readPart_padded_append hmonth hmonth' (by omega) dash_not_digit, ?_⟩
  refine bind_eq_ok_iff.mpr ⟨_, readDash_cons, ?_⟩
  refine bind_eq_ok_iff.mpr
    ⟨_, readPart_padded_append hday (Nat.le_trans hday' hlength) (by omega) (by simp), ?_⟩
  have hparts : ofParts? d.year d.month d.day = some d := dif_pos d.isDate
  dsimp only
  rw [hparts]
  rfl

end FlowPlan.Date
