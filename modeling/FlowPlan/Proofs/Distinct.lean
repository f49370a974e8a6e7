import Mathlib.Data.List.Nodup

namespace FlowPlan

/-- Adding to a list what it does not hold yet keeps the first occurrence of each new item. -/
theorem foldl_insert_eq_append_eraseDups {α : Type} [BEq α] [LawfulBEq α] (xs held : List α) :
    xs.foldl (fun held x => if held.contains x then held else held ++ [x]) held =
      held ++ (xs.filter fun x => !held.contains x).eraseDups := by
  induction xs generalizing held with
  | nil => simp
  | cons x rest ih =>
    rw [List.foldl_cons]
    by_cases hx : held.contains x = true
    · rw [if_pos hx, ih, List.filter_cons_of_neg (by simpa using hx)]
    · -- what is new after an element is what was new before it, but for the element
      have hrest : (rest.filter fun y => !(held ++ [x]).contains y) =
          (rest.filter fun y => !held.contains y).filter fun y => !y == x := by
        rw [List.filter_filter]
        refine List.filter_congr fun y _ => ?_
        by_cases hyx : y = x
        · simp [hyx]
        · simp [hyx]
      rw [if_neg hx, ih, hrest, List.filter_cons_of_pos (by simpa using hx), List.eraseDups_cons,
        List.append_assoc, List.singleton_append]

theorem foldl_insert_nil {α : Type} [BEq α] [LawfulBEq α] (xs : List α) :
    xs.foldl (fun held x => if held.contains x then held else held ++ [x]) [] = xs.eraseDups := by
  rw [foldl_insert_eq_append_eraseDups]
  simp

/-- Collecting names keeps none twice. -/
theorem nodup_eraseDups {α : Type} [BEq α] [LawfulBEq α] (xs : List α) : xs.eraseDups.Nodup := by
  -- by the length of the list: what follows the first item loses its other occurrences
  induction hlength : xs.length using Nat.strongRecOn generalizing xs with
  | ind length ih =>
    cases xs with
    | nil => simp
    | cons x rest =>
      rw [List.eraseDups_cons, List.nodup_cons]
      have hshorter : (rest.filter fun y => !y == x).length < length := by
        have hfilter := List.length_filter_le (fun y => !y == x) rest
        rw [List.length_cons] at hlength
        omega
      refine ⟨fun hx => ?_, ih _ hshorter _ rfl⟩
      rw [List.mem_eraseDups, List.mem_filter] at hx
      simp at hx

/-- Where two items stand to each other is not changed by leaving others out. -/
theorem idxOf_lt_of_idxOf_filter_lt {α : Type} [BEq α] [LawfulBEq α] (keep : α → Bool) {a b : α}
    (hb : keep b = true) {xs : List α}
    (h : (xs.filter keep).idxOf a < (xs.filter keep).idxOf b) : xs.idxOf a < xs.idxOf b := by
  induction xs with
  | nil => exact h
  | cons x rest ih =>
    by_cases hxb : x = b
    · -- nothing stands before the head of a list
      rw [hxb, List.filter_cons_of_pos hb, List.idxOf_cons_self] at h
      exact absurd h (Nat.not_lt_zero _)
    by_cases hxa : x = a
    · rw [hxa, List.idxOf_cons_self, List.idxOf_cons_ne _ (hxa ▸ hxb)]
      exact Nat.succ_pos _
    rw [List.idxOf_cons_ne _ hxa, List.idxOf_cons_ne _ hxb]
    refine Nat.succ_lt_succ (ih ?_)
    by_cases hx : keep x = true
    · rw [List.filter_cons_of_pos hx, List.idxOf_cons_ne _ hxa, List.idxOf_cons_ne _ hxb] at h
      exact Nat.lt_of_succ_lt_succ h
    · rwa [List.filter_cons_of_neg hx] at h

/-- Items that are listed once each stand in the order in which they are first met. -/
theorem pairwise_idxOf_eraseDups {α : Type} [BEq α] [LawfulBEq α] (xs : List α) :
    xs.eraseDups.Pairwise fun a b => xs.idxOf a < xs.idxOf b := by
  -- by the length of the list, as for `nodup_eraseDups`
  induction hlength : xs.length using Nat.strongRecOn generalizing xs with
  | ind length ih =>
    cases xs with
    | nil => simp
    | cons x rest =>
      have hshorter : (rest.filter fun y => !y == x).length < length := by
        have hfilter := List.length_filter_le (fun y => !y == x) rest
        rw [List.length_cons] at hlength
        omega
      have hother {y : α} (hy : y ∈ (rest.filter fun y => !y == x).eraseDups) :
          (!y == x) = true := by
        rw [List.mem_eraseDups] at hy
        exact (List.mem_filter.mp hy).2
      have hne {y : α} (hy : (!y == x) = true) : x ≠ y := by
        rintro rfl
        simp at hy
      rw [List.eraseDups_cons, List.pairwise_cons]
      constructor
      · intro y hy
        rw [List.idxOf_cons_self, List.idxOf_cons_ne _ (hne (hother hy))]
        exact Nat.succ_pos _
      · refine (ih _ hshorter _ rfl).imp_of_mem fun {a b} ha hb hlt => ?_
        rw [List.idxOf_cons_ne _ (hne (hother ha)), List.idxOf_cons_ne _ (hne (hother hb))]
        exact Nat.succ_lt_succ (idxOf_lt_of_idxOf_filter_lt (fun y => !y == x) (hother hb) hlt)

end FlowPlan
