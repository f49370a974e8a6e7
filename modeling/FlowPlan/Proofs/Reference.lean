import FlowPlan.Proofs.Collection
import FlowPlan.Proofs.Mention
import Mathlib.Data.Fintype.Pigeonhole
import Mathlib.Data.Set.Finite.Basic
import Mathlib.Logic.Relation
import Mathlib.Order.Monotone.Basic

namespace FlowPlan

/-- Among some parameters, a field of the one called `reader` names `read`. -/
def Reads (among : List Parameter) (reader read : String) : Prop :=
  ∃ p ∈ among, p.name = reader ∧ p.Names read

theorem reads_iff {among : List Parameter} {reader read : String} :
    Reads among reader read ↔
      ∃ p ∈ among, p.name = reader ∧ read ∈ p.parameterReferences := by
  unfold Reads
  simp only [Parameter.names_iff]

theorem reads_of_mem {among : List Parameter} {p : Parameter} {name : String} (hp : p ∈ among)
    (hname : name ∈ p.parameterReferences) : Reads among p.name name :=
  reads_iff.mpr ⟨p, hp, rfl, hname⟩

/-- More parameters can only read more. -/
theorem reads_mono {few many : List Parameter} (hsub : few ⊆ many) : Reads few ≤ Reads many := by
  rintro reader read ⟨p, hp, hreader, hread⟩
  exact ⟨p, hsub hp, hreader, hread⟩

/-- Where each parameter reads one of the others, every chain of references runs into a cycle. -/
theorem exists_cycle_of_forall_reads {among : List Parameter}
    (hnext : ∀ p ∈ among, ∃ q ∈ among, q.name ∈ p.parameterReferences) {p : Parameter}
    (hp : p ∈ among) :
    ∃ name, Relation.ReflTransGen (Reads among) p.name name ∧
      Relation.TransGen (Reads among) name name := by
  -- follow one such reference from each parameter, over and over
  choose next hmem hreads using hnext
  let step : {q // q ∈ among} → {q // q ∈ among} := fun q => ⟨next q.1 q.2, hmem q.1 q.2⟩
  let chain : ℕ → {q // q ∈ among} := fun n => step^[n] ⟨p, hp⟩
  have hchain (n : ℕ) : Reads among (chain n).1.name (chain (n + 1)).1.name := by
    have hsucc : chain (n + 1) = step (chain n) := Function.iterate_succ_apply' step n ⟨p, hp⟩
    rw [hsucc]
    exact reads_of_mem (chain n).2 (hreads (chain n).1 (chain n).2)
  -- there are only finitely many parameters, so the chain comes back to one of them
  have : Finite {q // q ∈ among} := among.finite_toSet
  obtain ⟨i, j, hij, heq⟩ := Finite.exists_ne_map_eq_of_infinite chain
  wlog hlt : i < j generalizing i j
  · exact this j i hij.symm heq.symm (by omega)
  refine ⟨(chain i).1.name, ?_, ?_⟩
  · have hreach := Nat.rel_of_forall_rel_succ_of_le (Relation.ReflTransGen (Reads among))
      (f := fun n => (chain n).1.name) (fun n => Relation.ReflTransGen.single (hchain n))
      (Nat.zero_le i)
    exact hreach
  · have hcycle := Nat.rel_of_forall_rel_succ_of_lt (Relation.TransGen (Reads among))
      (f := fun n => (chain n).1.name) (fun n => Relation.TransGen.single (hchain n)) hlt
    simpa only [← heq] using hcycle

/-- The names of the parameters that can be created: those whose fields name nothing but such
names. -/
inductive Creatable (parameters : Collection Parameter) : String → Prop
  | intro (p : Parameter) (declared : p ∈ parameters.entities)
      (reads : ∀ name, p.Names name → Creatable parameters name) :
      Creatable parameters p.name

def Closed (parameters : Collection Parameter) : Prop :=
  ∀ p ∈ parameters.entities, ∀ name, p.Names name → parameters.contains name = true

def Acyclic (parameters : Collection Parameter) : Prop :=
  ∀ name, ¬Relation.TransGen (Reads parameters.entities) name name

theorem Closed.contains_of_mem {parameters : Collection Parameter} (h : Closed parameters)
    {p : Parameter} (hp : p ∈ parameters.entities) {name : String}
    (hname : name ∈ p.parameterReferences) : parameters.contains name = true :=
  h p hp name (Parameter.names_iff.mpr hname)

namespace Creatable

variable {parameters : Collection Parameter}

theorem declared_of {name : String} (h : Creatable parameters name) :
    ∃ p ∈ parameters.entities, p.name = name ∧
      ∀ read ∈ p.parameterReferences, Creatable parameters read := by
  cases h with
  | intro p hp hreads =>
    exact ⟨p, hp, rfl, fun read hread => hreads read (Parameter.names_iff.mpr hread)⟩

/-- A declared parameter can be created once all that it reads can be. -/
theorem iff_of_mem {p : Parameter} (hp : p ∈ parameters.entities) :
    Creatable parameters p.name ↔ ∀ name ∈ p.parameterReferences, Creatable parameters name := by
  constructor
  · intro h
    obtain ⟨q, hq, hname, hreads⟩ := h.declared_of
    rwa [Collection.eq_of_name_eq hq hp hname] at hreads
  · intro hreads
    exact Creatable.intro p hp fun name hname => hreads name (Parameter.names_iff.mp hname)

/-- A parameter that can be created reads only such parameters. -/
theorem of_reads {reader read : String} (h : Creatable parameters reader)
    (hreads : Reads parameters.entities reader read) : Creatable parameters read := by
  obtain ⟨p, hp, rfl, hread⟩ := reads_iff.mp hreads
  exact (iff_of_mem hp).mp h read hread

/-- From a parameter that can be created, references lead to such parameters only. -/
theorem of_path {first last : String} (h : Creatable parameters first)
    (hpath : Relation.ReflTransGen (Reads parameters.entities) first last) :
    Creatable parameters last := by
  induction hpath with
  | refl => exact h
  | tail _ hreads ih => exact ih.of_reads hreads

/-- What can be created does not lead back to itself. -/
theorem not_cycle {name : String} (h : Creatable parameters name) :
    ¬Relation.TransGen (Reads parameters.entities) name name := by
  induction h with
  | intro p hp _ ih =>
    intro hcycle
    -- the cycle starts with something that `p` reads, which leads back to itself as well
    obtain ⟨read, ⟨q, hq, hname, hread⟩, hback⟩ := Relation.TransGen.head'_iff.mp hcycle
    have hqp : q = p := Collection.eq_of_name_eq hq hp hname
    subst hqp
    exact ih read hread (Relation.TransGen.tail' hback ⟨q, hp, rfl, hread⟩)

/-- All parameters can be created exactly when references lead to declared ones, and nowhere in
circles. -/
theorem forall_iff :
    (∀ p ∈ parameters.entities, Creatable parameters p.name) ↔
      Closed parameters ∧ Acyclic parameters := by
  classical
  constructor
  · intro hall
    refine ⟨fun p hp name hname => ?_, fun name hcycle => ?_⟩
    · have hcreatable := (hall p hp).of_reads ⟨p, hp, rfl, hname⟩
      obtain ⟨q, hq, hqname, -⟩ := hcreatable.declared_of
      exact Collection.contains_iff.mpr ⟨q, hq, hqname⟩
    · obtain ⟨_, ⟨p, hp, hname, -⟩, -⟩ := Relation.TransGen.head'_iff.mp hcycle
      exact (hall p hp).not_cycle (hname ▸ hcycle)
  · rintro ⟨hclosed, hacyclic⟩
    let stuck := parameters.entities.filter fun p => ¬Creatable parameters p.name
    have hsub : stuck ⊆ parameters.entities := List.filter_subset_self _
    -- a parameter that cannot be created reads another such one, so these would form a cycle
    have hnext : ∀ p ∈ stuck, ∃ q ∈ stuck, q.name ∈ p.parameterReferences := by
      intro p hp
      obtain ⟨hmem, hnot⟩ := List.mem_filter.mp hp
      rw [decide_eq_true_eq, iff_of_mem hmem] at hnot
      push Not at hnot
      obtain ⟨name, hname, hbad⟩ := hnot
      obtain ⟨q, hq, rfl⟩ := Collection.contains_iff.mp (hclosed.contains_of_mem hmem hname)
      exact ⟨q, List.mem_filter.mpr ⟨hq, decide_eq_true hbad⟩, hname⟩
    intro p hp
    by_contra hnot
    have hstuck : p ∈ stuck := List.mem_filter.mpr ⟨hp, by simpa using hnot⟩
    obtain ⟨name, -, hcycle⟩ := exists_cycle_of_forall_reads hnext hstuck
    exact hacyclic name (Relation.TransGen.mono (reads_mono hsub) _ _ hcycle)

end Creatable

end FlowPlan
