import FlowPlan.Proofs.Reference
import Mathlib.Data.Finset.Card

/-! The level of a parameter: how many rounds it takes until it can be created, when those that read
nothing are created in the first one. -/

namespace FlowPlan

theorem foldr_max_le_iff {xs : List ℕ} {least bound : ℕ} :
    xs.foldr max least ≤ bound ↔ least ≤ bound ∧ ∀ x ∈ xs, x ≤ bound := by
  induction xs with
  | nil => simp
  | cons x rest ih =>
    rw [List.foldr_cons, max_le_iff, ih, List.forall_mem_cons]
    tauto

/-- A parameter has to wait one more round for one that is declared after it. -/
def delay (parameters : Collection Parameter) (reader read : String) : ℕ :=
  if parameters.names.idxOf reader < parameters.names.idxOf read then 1 else 0

/-- The level of a parameter as far as chains of `fuel` references tell it. -/
def levelWithin (parameters : Collection Parameter) : ℕ → String → ℕ
  | 0, _ => 1
  | fuel + 1, name =>
    match parameters.find? name with
    | none => 1
    | some p =>
      (p.parameterReferences.map fun read =>
        levelWithin parameters fuel read + delay parameters name read).foldr max 1

/-- The level of a parameter. No chain of references is longer than the collection, unless it runs
in a circle. -/
def level (parameters : Collection Parameter) (name : String) : ℕ :=
  levelWithin parameters parameters.names.length name

section

variable {parameters : Collection Parameter}

/-- The level of a parameter comes from those that it reads. -/
theorem levelWithin_succ {p : Parameter} (hp : p ∈ parameters.entities) (fuel : ℕ) :
    levelWithin parameters (fuel + 1) p.name =
      (p.parameterReferences.map fun read =>
        levelWithin parameters fuel read + delay parameters p.name read).foldr max 1 := by
  have hfound : parameters.find? p.name = some p := Collection.find?_eq_some_iff.mpr ⟨hp, rfl⟩
  rw [levelWithin, hfound]

open scoped Classical in
noncomputable def below (parameters : Collection Parameter) (name : String) : Finset String :=
  parameters.names.toFinset.filter (Relation.TransGen (Reads parameters.entities) name)

theorem mem_below {name read : String} :
    read ∈ below parameters name ↔
      read ∈ parameters.names ∧ Relation.TransGen (Reads parameters.entities) name read := by
  classical
  rw [below, Finset.mem_filter, List.mem_toFinset]

/-- What a parameter reads leads to fewer names than the parameter, which leads there and to what is
read. -/
theorem card_below_lt_of_reads (hacyclic : Acyclic parameters) {name read : String}
    (hread : read ∈ parameters.names) (h : Reads parameters.entities name read) :
    (below parameters read).card < (below parameters name).card := by
  apply Finset.card_lt_card
  -- `read` leads to nothing new, and not to itself
  refine Finset.ssubset_iff_of_subset (fun other hother => ?_) |>.mpr ⟨read, ?_, fun hcycle => ?_⟩
  · obtain ⟨hmem, hpath⟩ := mem_below.mp hother
    exact mem_below.mpr ⟨hmem, Relation.TransGen.head h hpath⟩
  · exact mem_below.mpr ⟨hread, Relation.TransGen.single h⟩
  · exact hacyclic read (mem_below.mp hcycle).2

/-- Nothing leads to itself, so that a name leads to fewer names than there are. -/
theorem card_below_lt_length (hacyclic : Acyclic parameters) {name : String}
    (hname : name ∈ parameters.names) :
    (below parameters name).card < parameters.names.length := by
  have hall : parameters.names.toFinset.card = parameters.names.length :=
    List.toFinset_card_of_nodup parameters.nodup
  rw [← hall]
  apply Finset.card_lt_card
  refine Finset.ssubset_iff_of_subset (fun other hother => ?_) |>.mpr ⟨name, ?_, fun hcycle => ?_⟩
  · exact List.mem_toFinset.mpr (mem_below.mp hother).1
  · exact List.mem_toFinset.mpr hname
  · exact hacyclic name (mem_below.mp hcycle).2

theorem Closed.exists_of_reads (hclosed : Closed parameters) {p : Parameter}
    (hp : p ∈ parameters.entities) {read : String} (hread : read ∈ p.parameterReferences) :
    ∃ q ∈ parameters.entities, q.name = read :=
  Collection.contains_iff.mp (hclosed.contains_of_mem hp hread)

/-- Longer chains tell nothing new of a name that leads to few others. -/
theorem levelWithin_succ_eq (hclosed : Closed parameters) (hacyclic : Acyclic parameters)
    {fuel : ℕ} {p : Parameter} (hp : p ∈ parameters.entities)
    (hfuel : (below parameters p.name).card < fuel) :
    levelWithin parameters (fuel + 1) p.name = levelWithin parameters fuel p.name := by
  induction fuel generalizing p with
  | zero => exact absurd hfuel (Nat.not_lt_zero _)
  | succ fuel ih =>
    rw [levelWithin_succ hp, levelWithin_succ hp]
    congr 1
    -- what is read leads to fewer names, so shorter chains tell its level already
    refine List.map_congr_left fun read hread => ?_
    obtain ⟨q, hq, rfl⟩ := hclosed.exists_of_reads hp hread
    have hname : q.name ∈ parameters.names := List.mem_map_of_mem hq
    have hless := card_below_lt_of_reads hacyclic hname (reads_of_mem hp hread)
    have hqfuel : (below parameters q.name).card < fuel :=
      Nat.lt_of_lt_of_le hless (Nat.le_of_lt_succ hfuel)
    exact congrArg (· + delay parameters p.name q.name) (ih hq hqfuel)

/-- The level of a parameter comes from those of the parameters it reads. -/
theorem level_eq (hclosed : Closed parameters) (hacyclic : Acyclic parameters) {p : Parameter}
    (hp : p ∈ parameters.entities) :
    level parameters p.name =
      (p.parameterReferences.map fun read =>
        level parameters read + delay parameters p.name read).foldr max 1 := by
  have hname : p.name ∈ parameters.names := List.mem_map_of_mem hp
  have hstable := levelWithin_succ_eq hclosed hacyclic hp (card_below_lt_length hacyclic hname)
  rw [level, ← hstable, levelWithin_succ hp]
  rfl

/-- A parameter is at most on some level when all that it reads is early enough. Fuel plays no part:
nothing leads to more names than there are. -/
theorem level_le_iff (hclosed : Closed parameters) (hacyclic : Acyclic parameters) {p : Parameter}
    (hp : p ∈ parameters.entities) {bound : ℕ} :
    level parameters p.name ≤ bound ↔
      1 ≤ bound ∧ ∀ read ∈ p.parameterReferences,
        level parameters read + delay parameters p.name read ≤ bound := by
  rw [level_eq hclosed hacyclic hp, foldr_max_le_iff, List.forall_mem_map]

end

end FlowPlan
