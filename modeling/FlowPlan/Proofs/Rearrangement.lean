import FlowPlan.Proofs.Failure

namespace FlowPlan

namespace Collection

variable {α : Type} [Entity α] {first second : Collection α}

theorem contains_eq_of_perm (h : first.entities.Perm second.entities) (name : String) :
    first.contains name = second.contains name := by
  rw [Bool.eq_iff_iff, contains_iff, contains_iff]
  simp only [h.mem_iff]

/-- Names are unique, so no order decides which entry a name is that of. -/
theorem find?_eq_of_perm (h : first.entities.Perm second.entities) (name : String) :
    first.find? name = second.find? name := by
  ext a
  rw [find?_eq_some_iff, find?_eq_some_iff, h.mem_iff]

end Collection

namespace Reads

variable {few many : List Parameter}

theorem eq_of_perm (h : few.Perm many) : Reads few = Reads many := by
  funext reader read
  unfold Reads
  simp only [h.mem_iff]

end Reads

namespace Creatable

variable {first second : Collection Parameter}

theorem of_perm (h : first.entities.Perm second.entities) {name : String}
    (hname : Creatable first name) : Creatable second name := by
  induction hname with
  | intro p hp _ ih => exact .intro p (h.mem_iff.mp hp) ih

theorem iff_of_perm (h : first.entities.Perm second.entities) {name : String} :
    Creatable first name ↔ Creatable second name :=
  ⟨of_perm h, of_perm h.symm⟩

end Creatable

namespace Model

/-- Whether two models declare the same, each section in an order of its own. -/
structure Rearranged (first second : Model) : Prop where
  timestepper_eq : first.timestepper = second.timestepper
  path_eq : first.path = second.path
  nodes : first.nodes.entities.Perm second.nodes.entities
  edges : first.edges.Perm second.edges
  parameters : first.parameters.entities.Perm second.parameters.entities
  recorders : first.recorders.entities.Perm second.recorders.entities
  tables : first.tables.entities.Perm second.tables.entities
  outputs : first.outputs.entities.Perm second.outputs.entities

namespace Rearranged

variable {first second : Model}

/-- Rearranging can be undone. -/
theorem symm (h : first.Rearranged second) : second.Rearranged first where
  timestepper_eq := h.timestepper_eq.symm
  path_eq := h.path_eq.symm
  nodes := h.nodes.symm
  edges := h.edges.symm
  parameters := h.parameters.symm
  recorders := h.recorders.symm
  tables := h.tables.symm
  outputs := h.outputs.symm

theorem connectors_eq (h : first.Rearranged second) : first.connectors = second.connectors := by
  funext name
  unfold connectors
  rw [Collection.find?_eq_of_perm h.nodes]

theorem mem_engineNames_iff (h : first.Rearranged second) {name : String} :
    name ∈ first.engineNames ↔ name ∈ second.engineNames := by
  simp only [mem_engineNames, h.nodes.mem_iff]

theorem attachable_iff (h : first.Rearranged second) {name : String} :
    first.Attachable name ↔ second.Attachable name := by
  unfold Attachable
  simp only [h.nodes.mem_iff, Collection.contains_eq_of_perm h.nodes, h.mem_engineNames_iff]

theorem recordable_iff (h : first.Rearranged second) {recorder : Recorder} :
    first.Recordable recorder ↔ second.Recordable recorder := by
  cases recorder with
  | nodeFlow recorder =>
    simp only [Recordable, Collection.contains_eq_of_perm h.nodes, h.mem_engineNames_iff]
  | storageVolume recorder => simp only [Recordable, h.nodes.mem_iff]
  | parameter recorder => simp only [Recordable, Collection.contains_eq_of_perm h.parameters]

/-- The plans of both models know the nodes that a parameter reads, or neither does. -/
theorem knows_iff (h : first.Rearranged second) {plan other : Plan} (hfirst : Founded first plan)
    (hsecond : Founded second other) (p : Parameter) : plan.Knows p ↔ other.Knows p := by
  unfold Plan.Knows
  simp only [hfirst.nodeKind?_ne_none_iff, hsecond.nodeKind?_ne_none_iff, h.mem_engineNames_iff,
    h.nodes.mem_iff]

theorem tablesDeclared_iff (h : first.Rearranged second) :
    first.TablesDeclared ↔ second.TablesDeclared := by
  unfold TablesDeclared
  simp only [h.parameters.mem_iff, Collection.contains_eq_of_perm h.tables]

/-- What a phase needs holds of both models, or of neither. -/
theorem meets_iff (h : first.Rearranged second) (phase : BuildPhase) :
    first.Meets phase ↔ second.Meets phase := by
  -- what a phase demands is said of members and names, never of their order
  cases phase with
  | nodes =>
    unfold Meets StepsDistinct MembersSingle
    simp only [h.nodes.mem_iff, h.mem_engineNames_iff]
  | edges =>
    unfold Meets
    simp only [h.edges.mem_iff, h.attachable_iff]
  | parameters =>
    unfold Meets Closed Acyclic
    simp only [h.tablesDeclared_iff, h.parameters.mem_iff, h.nodes.mem_iff,
      h.mem_engineNames_iff, Collection.contains_eq_of_perm h.parameters,
      Reads.eq_of_perm h.parameters]
  | recorders =>
    unfold Meets
    simp only [h.recorders.mem_iff, h.recordable_iff]
  | constraints =>
    unfold Meets
    simp only [h.nodes.mem_iff, Collection.contains_eq_of_perm h.parameters]
  | outputs => exact Iff.rfl
  | run => exact Iff.rfl

end Rearranged

end Model

end FlowPlan
