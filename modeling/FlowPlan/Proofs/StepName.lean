import FlowPlan.Node.Basic
import Mathlib.Data.List.Nodup

namespace FlowPlan

/-- What comes before and after the last mark can be told from the whole. -/
theorem append_mark_inj {α : Type} {before before' after after' : List α} {mark : α}
    (h : before ++ mark :: after = before' ++ mark :: after') (hafter : mark ∉ after)
    (hafter' : mark ∉ after') : before = before' ∧ after = after' := by
  rcases List.append_eq_append_iff.mp h with ⟨gap, hbefore, hrest⟩ | ⟨gap, hbefore, hrest⟩
  · cases gap with
    | nil =>
      obtain ⟨-, hsame⟩ := List.cons_eq_cons.mp hrest
      exact ⟨by simpa using hbefore.symm, hsame⟩
    | cons first gap =>
      -- a longer prefix would put the second mark after the first one
      obtain ⟨-, hlong⟩ := List.cons_eq_cons.mp hrest
      exact absurd (by simp [hlong]) hafter
  · cases gap with
    | nil =>
      obtain ⟨-, hsame⟩ := List.cons_eq_cons.mp hrest
      exact ⟨by simpa using hbefore, hsame.symm⟩
    | cons first gap =>
      obtain ⟨-, hlong⟩ := List.cons_eq_cons.mp hrest
      exact absurd (by simp [hlong]) hafter'

/-- No digit is a dash, so that the last dash of a step's name ends the name of its link. -/
theorem dash_not_mem_toDigits (n : ℕ) : '-' ∉ Nat.toDigits 10 n := by
  intro hmem
  have hdigit : Char.isDigit '-' = true :=
    Nat.isDigit_of_mem_toDigits (by decide) (by decide) hmem
  exact absurd hdigit (by decide)

theorem toDigits_injective {m n : ℕ} (h : Nat.toDigits 10 m = Nat.toDigits 10 n) : m = n := by
  have hvalue := congrArg (fun digits => Nat.ofDigitChars 10 digits 0) h
  simpa only [Nat.ofDigitChars_ten_toDigits] using hvalue

namespace PiecewiseLink

/-- The dash before the index is the last one of the name. -/
theorem toList_stepName (link : PiecewiseLink) (index : ℕ) :
    (link.stepName index).toList =
      (link.name.toList ++ ".step".toList) ++ '-' :: Nat.toDigits 10 index := by
  have hmark : ".step-".toList = ".step".toList ++ ['-'] := by decide
  have hdigits : (Decimal.digitText index).toList = Nat.toDigits 10 index :=
    String.toList_ofList
  rw [stepName, String.toList_append, String.toList_append, hmark, hdigits, List.append_assoc,
    List.append_assoc, List.append_assoc, List.singleton_append]

/-- The name of a step tells the link and the index. -/
theorem stepName_inj {link other : PiecewiseLink} {i j : ℕ}
    (h : link.stepName i = other.stepName j) : link.name = other.name ∧ i = j := by
  have hchars := congrArg String.toList h
  rw [toList_stepName, toList_stepName] at hchars
  obtain ⟨hnames, hdigits⟩ :=
    append_mark_inj hchars (dash_not_mem_toDigits i) (dash_not_mem_toDigits j)
  exact ⟨String.toList_inj.mp (List.append_cancel_right hnames), toDigits_injective hdigits⟩

/-- The steps of one link have distinct names. -/
theorem nodup_stepNames (link : PiecewiseLink) : link.stepNames.Nodup := by
  unfold stepNames
  refine List.Nodup.map_on (fun i _ j _ hname => ?_) List.nodup_range
  exact (stepName_inj hname).2

theorem mem_stepNames {link : PiecewiseLink} {name : String} :
    name ∈ link.stepNames ↔ ∃ index < link.steps.length, link.stepName index = name := by
  unfold stepNames
  simp only [List.mem_map, List.mem_range]

/-- Links with a step of one name have one name themselves. -/
theorem name_eq_of_mem_stepNames {link other : PiecewiseLink} {name : String}
    (hlink : name ∈ link.stepNames) (hother : name ∈ other.stepNames) : link.name = other.name := by
  obtain ⟨i, -, rfl⟩ := mem_stepNames.mp hlink
  obtain ⟨j, -, hname⟩ := mem_stepNames.mp hother
  exact (stepName_inj hname).1.symm

/-- No step is called like its link. -/
theorem name_not_mem_stepNames (link : PiecewiseLink) :
    link.name ∉ link.stepNames := by
  intro hstep
  obtain ⟨index, -, hname⟩ := mem_stepNames.mp hstep
  have hlength := congrArg (fun name => name.toList.length) hname
  simp only [toList_stepName, List.length_append, List.length_cons] at hlength
  omega

end PiecewiseLink

end FlowPlan
