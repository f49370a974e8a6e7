import FlowPlan.Proofs.Distinct
import FlowPlan.Proofs.Progress

namespace FlowPlan

/-- Whether references among some parameters lead from a name to one that nothing declares. -/
def LeadsAstray (parameters : Collection Parameter) (among : List Parameter) (name : String) :
    Prop :=
  ∃ missing, Relation.TransGen (Reads among) name missing ∧ parameters.contains missing = false

/-- A reader of something that leads astray leads astray. -/
theorem LeadsAstray.of_reads {parameters : Collection Parameter} {among : List Parameter}
    {reader read : String} (hreads : Reads among reader read)
    (h : LeadsAstray parameters among read) : LeadsAstray parameters among reader := by
  obtain ⟨missing, hpath, hnot⟩ := h
  exact ⟨missing, Relation.TransGen.head hreads hpath, hnot⟩

/-- Whether from each of some parameters references among them lead into a cycle. -/
def RunInCircles (among : List Parameter) : Prop :=
  ∀ p ∈ among, ∃ name, Relation.ReflTransGen (Reads among) p.name name ∧
    Relation.TransGen (Reads among) name name

/-- Whether an error tells why some parameters are stuck, and which of them for which reason. -/
inductive Diagnosed (parameters : Collection Parameter) (stuck : List Parameter) :
    ModelError → Prop
  -- all that is read is declared, so that the stuck parameters only wait for each other
  | circular
      (declared : ∀ p ∈ stuck, ∀ name ∈ p.parameterReferences, parameters.contains name = true)
      (circles : RunInCircles stuck) :
      Diagnosed parameters stuck (.cyclicDependency (stuck.map Parameter.name))
  -- something undeclared is read; who leads there is told apart from who waits in circles
  | astray {dependent cyclic : List Parameter}
      (undeclared : ∃ p ∈ stuck, ∃ name ∈ p.parameterReferences, parameters.contains name = false)
      (dependent_sublist : dependent.Sublist stuck)
      (cyclic_sublist : cyclic.Sublist stuck)
      (complete : (dependent ++ cyclic).Perm stuck)
      (disjoint : dependent.Disjoint cyclic)
      (mem_dependent : ∀ p ∈ stuck, p ∈ dependent ↔ LeadsAstray parameters stuck p.name)
      (circles : RunInCircles cyclic) :
      Diagnosed parameters stuck
        (.unresolvedReference (dependent.map Parameter.name)
          (Resolution.undeclared parameters (stuck.flatMap Parameter.parameterReferences)).eraseDups
          (cyclic.map Parameter.name))

def ModelError.unresolved? : ModelError → Option (List String)
  | .cyclicDependency parameters => some parameters
  | .unresolvedReference parameters _ cyclic => some (parameters ++ cyclic)
  | _ => none

/-- Together, the two lists of a diagnosis name each parameter that is stuck once. -/
theorem Diagnosed.unresolved_perm {parameters : Collection Parameter} {stuck : List Parameter}
    {e : ModelError} (h : Diagnosed parameters stuck e) :
    ∃ names, e.unresolved? = some names ∧ names.Perm (stuck.map Parameter.name) := by
  cases h with
  | circular => exact ⟨_, rfl, List.Perm.refl _⟩
  | astray _ _ _ complete =>
    refine ⟨_, rfl, ?_⟩
    rw [← List.map_append]
    exact complete.map Parameter.name

/-- Parameters that wait for something, and do not lead to undeclared names, wait for each other. -/
theorem runInCircles_of_waits {parameters : Collection Parameter} {stuck cyclic : List Parameter}
    (hcyclic : ∀ p, p ∈ cyclic ↔ p ∈ stuck ∧ ¬LeadsAstray parameters stuck p.name)
    (hwaits : ∀ p ∈ stuck, ∃ name ∈ p.parameterReferences,
      parameters.contains name = false ∨ ∃ q ∈ stuck, q.name = name) :
    RunInCircles cyclic := by
  intro p hp
  refine exists_cycle_of_forall_reads (fun q hq => ?_) hp
  obtain ⟨hstuck, hstraight⟩ := (hcyclic q).mp hq
  obtain ⟨name, hname, hnot | ⟨next, hnext, rfl⟩⟩ := hwaits q hstuck
  · exact absurd ⟨name, Relation.TransGen.single (reads_of_mem hstuck hname), hnot⟩ hstraight
  · refine ⟨next, (hcyclic next).mpr ⟨hnext, fun hastray => ?_⟩, hname⟩
    exact hstraight (hastray.of_reads (reads_of_mem hstuck hname))

namespace Resolution

variable {stuck : List Parameter} {broken : List String}

theorem spread_cons (p : Parameter) (rest : List Parameter) :
    spread (p :: rest) broken =
      spread rest (if !broken.contains p.name && p.parameterReferences.any broken.contains then
        broken ++ [p.name] else broken) := rfl

/-- One pass only adds names at the end. -/
theorem prefix_spread (stuck : List Parameter) (broken : List String) :
    broken <+: spread stuck broken := by
  induction stuck generalizing broken with
  | nil => exact List.prefix_refl _
  | cons p rest ih =>
    rw [spread_cons]
    split
    · exact (List.prefix_append _ _).trans (ih _)
    · exact ih _

/-- One pass adds no name twice. -/
theorem nodup_spread (h : broken.Nodup) : (spread stuck broken).Nodup := by
  induction stuck generalizing broken with
  | nil => exact h
  | cons p rest ih =>
    rw [spread_cons]
    split
    · rename_i hnew
      have hfresh : p.name ∉ broken := by
        simp only [Bool.and_eq_true, Bool.not_eq_true', List.contains_eq_mem,
          decide_eq_false_iff_not] at hnew
        exact hnew.1
      apply ih
      rw [← List.concat_eq_append]
      exact List.Nodup.concat hfresh h
    · exact ih h

/-- What holds of broken names and passes to their readers holds after a pass. -/
theorem forall_mem_spread {P : String → Prop} (hbroken : ∀ name ∈ broken, P name)
    (hstep : ∀ p ∈ stuck, (∃ name ∈ p.parameterReferences, P name) → P p.name) :
    ∀ name ∈ spread stuck broken, P name := by
  -- one pass only adds what the step allows, from whatever names it starts
  induction stuck generalizing broken with
  | nil => exact hbroken
  | cons p rest ih =>
    obtain ⟨hp, hrest⟩ := List.forall_mem_cons.mp hstep
    rw [spread_cons]
    split
    · rename_i hnew
      obtain ⟨name, hname, hmem⟩ := List.any_eq_true.mp (Bool.and_eq_true_iff.mp hnew).2
      have hP : P p.name := hp ⟨name, hname, hbroken name (List.contains_iff_mem.mp hmem)⟩
      exact ih (List.forall_mem_append.mpr ⟨hbroken, by simpa using hP⟩) hrest
    · exact ih hbroken hrest

/-- Where a pass adds nothing, no stuck parameter outside reads a broken one. -/
theorem mem_of_spread_eq (h : (spread stuck broken).length = broken.length) {p : Parameter}
    (hp : p ∈ stuck) {name : String} (hname : name ∈ p.parameterReferences)
    (hbroken : name ∈ broken) : p.name ∈ broken := by
  -- a pass that adds nothing has found nothing to add
  induction stuck generalizing broken with
  | nil => exact absurd hp List.not_mem_nil
  | cons q rest ih =>
    rw [spread_cons] at h
    split at h
    · have hgrown := (prefix_spread rest (broken ++ [q.name])).length_le
      rw [List.length_append, List.length_singleton] at hgrown
      omega
    · rename_i hold
      rcases List.mem_cons.mp hp with rfl | hp
      · by_contra hnew
        refine hold (Bool.and_eq_true_iff.mpr ⟨by simpa using hnew, ?_⟩)
        exact List.any_eq_true.mpr ⟨name, hname, List.contains_iff_mem.mpr hbroken⟩
      · exact ih h hp hbroken

theorem subset_closure (stuck : List Parameter) (fuel : ℕ) (broken : List String) :
    broken ⊆ closure stuck fuel broken := by
  induction fuel generalizing broken with
  | zero => exact List.Subset.refl _
  | succ fuel ih =>
    rw [closure]
    split
    · exact List.Subset.refl _
    · exact fun _ hname => ih _ ((prefix_spread stuck broken).subset hname)

/-- What holds of the names at the start, and is handed on from a parameter that is read to its
reader, holds of the whole closure. -/
theorem forall_mem_closure {P : String → Prop} (fuel : ℕ) (hbroken : ∀ name ∈ broken, P name)
    (hstep : ∀ p ∈ stuck, (∃ name ∈ p.parameterReferences, P name) → P p.name) :
    ∀ name ∈ closure stuck fuel broken, P name := by
  induction fuel generalizing broken with
  | zero => exact hbroken
  | succ fuel ih =>
    rw [closure]
    split
    · exact hbroken
    · exact ih (forall_mem_spread hbroken hstep)

/-- The passes reach a list that no pass adds to: each that adds something adds another of the stuck
parameters, and their number bounds the passes. -/
theorem mem_closure_of_reads {fuel : ℕ} (hnodup : broken.Nodup)
    (hsub : broken ⊆ stuck.map Parameter.name) (hfuel : stuck.length ≤ broken.length + fuel)
    {p : Parameter} (hp : p ∈ stuck) {name : String} (hname : name ∈ p.parameterReferences)
    (hbroken : name ∈ closure stuck fuel broken) : p.name ∈ closure stuck fuel broken := by
  induction fuel generalizing broken with
  | zero =>
    -- no pass is left, so all stuck parameters are broken
    have hfull : broken.Perm (stuck.map Parameter.name) := by
      refine (hnodup.subperm hsub).perm_of_length_le ?_
      rw [List.length_map]
      omega
    exact hfull.mem_iff.mpr (List.mem_map_of_mem hp)
  | succ fuel ih =>
    rw [closure] at hbroken ⊢
    split at hbroken
    · rename_i hstable
      rw [if_pos hstable]
      exact mem_of_spread_eq hstable hp hname hbroken
    · rename_i hgrown
      rw [if_neg hgrown]
      -- this pass added a name, so one fewer is enough for the rest
      have hlength := (prefix_spread stuck broken).length_le
      refine ih (nodup_spread hnodup) ?_ (by omega) hbroken
      exact forall_mem_spread (P := (· ∈ stuck.map Parameter.name)) hsub
        fun p hp _ => List.mem_map_of_mem hp

/-- The closure of the parameters that read an undeclared name holds those that lead to one. -/
theorem mem_closure_iff {parameters : Collection Parameter}
    (hstuck : (stuck.map Parameter.name).Nodup) {name : String} :
    name ∈ closure stuck stuck.length
        ((stuck.filter fun q => !(undeclared parameters q.parameterReferences).isEmpty).map
          Parameter.name) ↔
      LeadsAstray parameters stuck name := by
  have hfirst (q : Parameter) :
      (!(undeclared parameters q.parameterReferences).isEmpty) = true ↔
        ∃ missing ∈ q.parameterReferences, parameters.contains missing = false := by
    rw [Bool.not_eq_true', Bool.eq_false_iff, ne_eq, List.isEmpty_iff, undeclared,
      List.filter_eq_nil_iff]
    simp
  constructor
  · intro hclosure
    refine forall_mem_closure (P := LeadsAstray parameters stuck) stuck.length ?_ ?_ _ hclosure
    · intro _ hbroken
      obtain ⟨q, hq, rfl⟩ := List.mem_map.mp hbroken
      obtain ⟨hmem, hreads⟩ := List.mem_filter.mp hq
      obtain ⟨missing, hmissing, hnot⟩ := (hfirst q).mp hreads
      exact ⟨missing, Relation.TransGen.single (reads_of_mem hmem hmissing), hnot⟩
    · rintro q hq ⟨name, hname, hastray⟩
      exact hastray.of_reads (reads_of_mem hq hname)
  · rintro ⟨missing, hpath, hnot⟩
    have hsublist := (List.filter_sublist (l := stuck)
      (p := fun q => !(undeclared parameters q.parameterReferences).isEmpty)).map Parameter.name
    -- the last reader on the path starts the closure, and each pass leads one reader back
    induction hpath using Relation.TransGen.head_induction_on with
    | single hread =>
      obtain ⟨q, hq, rfl, hmissing⟩ := reads_iff.mp hread
      refine subset_closure _ _ _ (List.mem_map_of_mem (List.mem_filter.mpr ⟨hq, ?_⟩))
      exact (hfirst q).mpr ⟨missing, hmissing, hnot⟩
    | head hread _ ih =>
      obtain ⟨q, hq, rfl, hname⟩ := reads_iff.mp hread
      exact mem_closure_of_reads (hsublist.nodup hstuck) hsublist.subset (Nat.le_add_left _ _) hq
        hname ih

theorem missingNames_eq (parameters : Collection Parameter) (stuck : List Parameter) :
    missingNames parameters stuck =
      (undeclared parameters (stuck.flatMap Parameter.parameterReferences)).eraseDups := by
  unfold missingNames
  exact foldl_insert_nil _

/-- A name is reported as missing when a stuck parameter reads it and no parameter is declared under
it. -/
theorem mem_missingNames {parameters : Collection Parameter} {name : String} :
    name ∈ missingNames parameters stuck ↔
      ∃ p ∈ stuck, name ∈ p.parameterReferences ∧ parameters.contains name = false := by
  rw [missingNames_eq, List.mem_eraseDups, undeclared, List.mem_filter, List.mem_flatMap]
  simp only [Bool.not_eq_true']
  constructor
  · rintro ⟨⟨p, hp, hname⟩, hnot⟩
    exact ⟨p, hp, hname, hnot⟩
  · rintro ⟨p, hp, hname, hnot⟩
    exact ⟨⟨p, hp, hname⟩, hnot⟩

/-- The diagnosis of parameters that all wait for something is right. -/
theorem diagnosed_diagnose {parameters : Collection Parameter}
    (hstuck : (stuck.map Parameter.name).Nodup)
    (hwaits : ∀ p ∈ stuck, ∃ name ∈ p.parameterReferences,
      parameters.contains name = false ∨ ∃ q ∈ stuck, q.name = name) :
    Diagnosed parameters stuck (diagnose parameters stuck) := by
  cases hmissing : missingNames parameters stuck with
  | nil =>
    have hdeclared : ∀ p ∈ stuck, ∀ name ∈ p.parameterReferences,
        parameters.contains name = true := by
      intro p hp name hname
      by_contra hnot
      have hmem : name ∈ missingNames parameters stuck :=
        mem_missingNames.mpr ⟨p, hp, hname, Bool.eq_false_of_not_eq_true hnot⟩
      rw [hmissing] at hmem
      exact List.not_mem_nil hmem
    have hdiagnose : diagnose parameters stuck = .cyclicDependency (stuck.map Parameter.name) := by
      simp [diagnose, hmissing]
    rw [hdiagnose]
    refine Diagnosed.circular hdeclared (runInCircles_of_waits (fun p => ?_) hwaits)
    refine ⟨fun hp => ⟨hp, ?_⟩, And.left⟩
    rintro ⟨missing, hpath, hnot⟩
    obtain ⟨_, -, hlast⟩ := Relation.TransGen.tail'_iff.mp hpath
    obtain ⟨q, hq, -, hname⟩ := reads_iff.mp hlast
    rw [hdeclared q hq missing hname] at hnot
    cases hnot
  | cons first rest =>
    -- the two lists that the error is made of
    let dependent := stuck.filter fun p => (closure stuck stuck.length
      ((stuck.filter fun q => !(undeclared parameters q.parameterReferences).isEmpty).map
        Parameter.name)).contains p.name
    let cyclic := stuck.filter fun p => !(closure stuck stuck.length
      ((stuck.filter fun q => !(undeclared parameters q.parameterReferences).isEmpty).map
        Parameter.name)).contains p.name
    have hdependent (p : Parameter) :
        p ∈ dependent ↔ p ∈ stuck ∧ LeadsAstray parameters stuck p.name := by
      rw [List.mem_filter, List.contains_iff_mem, mem_closure_iff hstuck]
    have hcyclic (p : Parameter) :
        p ∈ cyclic ↔ p ∈ stuck ∧ ¬LeadsAstray parameters stuck p.name := by
      rw [List.mem_filter, Bool.not_eq_true', ← Bool.not_eq_true, List.contains_iff_mem,
        mem_closure_iff hstuck]
    have hdiagnose : diagnose parameters stuck =
        .unresolvedReference (dependent.map Parameter.name) (missingNames parameters stuck)
          (cyclic.map Parameter.name) := by
      simp only [diagnose, hmissing, List.isEmpty_cons, List.partition_eq_filter_filter]
      rfl
    rw [hdiagnose, missingNames_eq]
    have hundeclared : ∃ p ∈ stuck, ∃ name ∈ p.parameterReferences,
        parameters.contains name = false := by
      have hmem : first ∈ missingNames parameters stuck := by
        rw [hmissing]
        exact List.mem_cons_self
      obtain ⟨p, hp, hname, hnot⟩ := mem_missingNames.mp hmem
      exact ⟨p, hp, first, hname, hnot⟩
    refine Diagnosed.astray hundeclared List.filter_sublist List.filter_sublist
      (List.filter_append_perm _ _) ?_ (fun p hp => ?_) (runInCircles_of_waits hcyclic hwaits)
    · intro p hp hnot
      exact ((hcyclic p).mp hnot).2 ((hdependent p).mp hp).2
    · rw [hdependent]
      exact and_iff_right hp

end Resolution

end FlowPlan
