import FlowPlan.Node.Basic
import FlowPlan.Parameter.Entity
import FlowPlan.Proofs.Distinct
import FlowPlan.Recorder

namespace FlowPlan

namespace Quantity

theorem references_eq (quantities : List Quantity) :
    references quantities = (quantities.filterMap parameter?).eraseDups :=
  foldl_insert_nil _

theorem parameter?_eq_some_iff {quantity : Quantity} {name : String} :
    quantity.parameter? = some name ↔ quantity = .parameter name := by
  cases quantity with
  | constant value => exact iff_of_false nofun nofun
  | parameter other => exact ⟨fun h => congrArg _ (Option.some.inj h), fun h => by cases h; rfl⟩

/-- The references of some quantities are the parameters among them. -/
theorem mem_references {quantities : List Quantity} {name : String} :
    name ∈ references quantities ↔ .parameter name ∈ quantities := by
  rw [references_eq, List.mem_eraseDups, List.mem_filterMap]
  simp only [parameter?_eq_some_iff, exists_eq_right]

end Quantity

/-- The parameters that the fields of a parameter name, field by field. -/
inductive Parameter.Names : Parameter → String → Prop
  | member {p : AggregatedParameter} {name : String} (h : .parameter name ∈ p.parameters) :
      Names (.aggregated p) name
  | negated {p : NegativeParameter} {name : String} (h : p.parameter = .parameter name) :
      Names (.negative p) name
  | bounded {p : MaxParameter} {name : String} (h : p.parameter = .parameter name) :
      Names (.max p) name
  | expanded {p : PolynomialParameter} {name : String} (h : p.parameter = .parameter name) :
      Names (.polynomial p) name
  | indexed {p : ControlCurveIndexParameter} {name : String}
      (h : .parameter name ∈ p.controlCurves) : Names (.controlCurveIndex p) name
  | interpolated {p : ControlCurveInterpolatedParameter} {name : String}
      (h : .parameter name ∈ p.controlCurves) : Names (.controlCurveInterpolated p) name
  | compared {p : ThresholdParameter} {name : String} (h : p.parameter = .parameter name) :
      Names (.threshold p) name
  | limiting {p : ThresholdParameter} {name : String} (h : p.threshold = .parameter name) :
      Names (.threshold p) name

inductive Parameter.Stores : Parameter → String → Prop
  | indexed (p : ControlCurveIndexParameter) : Stores (.controlCurveIndex p) p.storageNode
  | interpolated (p : ControlCurveInterpolatedParameter) :
      Stores (.controlCurveInterpolated p) p.storageNode

namespace Parameter

variable {p : Parameter} {name : String}

/-- When the references are put together, no field that names a parameter is forgotten, and nothing
else is taken for one. -/
theorem names_iff : p.Names name ↔ name ∈ p.parameterReferences := by
  -- each way of naming a parameter is a quantity of its own, and there are no others
  have hquantities : p.Names name ↔ .parameter name ∈ p.quantities := by
    constructor
    · intro h
      cases h with
      | member h => exact h
      | negated h => exact List.mem_singleton.mpr h.symm
      | bounded h => exact List.mem_singleton.mpr h.symm
      | expanded h => exact List.mem_singleton.mpr h.symm
      | indexed h => exact h
      | interpolated h => exact h
      | compared h => exact h ▸ List.mem_cons_self
      | limiting h => exact h ▸ List.mem_cons_of_mem _ List.mem_cons_self
    · intro h
      cases p with
      | constant p => cases h
      | aggregated p => exact .member h
      | negative p => exact .negated (List.mem_singleton.mp h).symm
      | max p => exact .bounded (List.mem_singleton.mp h).symm
      | polynomial p => exact .expanded (List.mem_singleton.mp h).symm
      | monthlyProfile p => cases h
      | controlCurveIndex p => exact .indexed h
      | controlCurveInterpolated p => exact .interpolated h
      | threshold p =>
        rcases List.mem_cons.mp h with hfirst | hrest
        · exact .compared hfirst.symm
        · exact .limiting (List.mem_singleton.mp hrest).symm
      | dataFrame p => cases h
  rw [hquantities, parameterReferences, Quantity.mem_references]

/-- The nodes that a parameter hands to an engine are the storage node of one that has it. -/
theorem stores_iff : p.Stores name ↔ name ∈ p.nodeReferences := by
  constructor
  · intro h
    cases h with
    | indexed p => exact List.mem_singleton.mpr rfl
    | interpolated p => exact List.mem_singleton.mpr rfl
  · intro h
    cases p with
    | controlCurveIndex p =>
      rw [List.mem_singleton.mp h]
      exact .indexed p
    | controlCurveInterpolated p =>
      rw [List.mem_singleton.mp h]
      exact .interpolated p
    | _ => cases h

/-- A parameter has one storage node at most. -/
theorem Stores.eq_of_mem {other : String} (h : p.Stores name)
    (hother : other ∈ p.nodeReferences) : other = name := by
  cases h with
  | indexed p => exact List.mem_singleton.mp hother
  | interpolated p => exact List.mem_singleton.mp hother

end Parameter

inductive Recorder.Watches : Recorder → String → Prop
  | flow (recorder : NodeRecorder) : Watches (.nodeFlow recorder) recorder.node
  | volume (recorder : NodeRecorder) : Watches (.storageVolume recorder) recorder.node

/-- The nodes that a recorder hands to an engine are the node of one that watches it. -/
theorem Recorder.watches_iff {recorder : Recorder} {name : String} :
    recorder.Watches name ↔ name ∈ recorder.nodeReferences := by
  constructor
  · intro h
    cases h with
    | flow recorder => exact List.mem_singleton.mpr rfl
    | volume recorder => exact List.mem_singleton.mpr rfl
  · intro h
    cases recorder with
    | nodeFlow recorder =>
      rw [List.mem_singleton.mp h]
      exact .flow recorder
    | storageVolume recorder =>
      rw [List.mem_singleton.mp h]
      exact .volume recorder
    | parameter recorder => cases h

/-- Whether a quantity is a cost or a bound of a node, or of one of its steps. -/
def Node.Holds (quantity : Quantity) : Node → Prop
  | input node | link node | output node =>
    node.cost = some quantity ∨ node.minFlow = some quantity ∨ node.maxFlow = some quantity
  | storage node =>
    node.cost = some quantity ∨ node.minVolume = some quantity ∨ node.maxVolume = some quantity
  | catchment node => node.cost = some quantity ∨ node.flow = some quantity
  | aggregated node => node.minFlow = some quantity ∨ node.maxFlow = some quantity
  | piecewiseLink node =>
    ∃ step ∈ node.steps, step.cost = some quantity ∨ step.maxFlow = some quantity

namespace Constraint

theorem mem_values_ofCost_iff {value : Option Quantity} {quantity : Quantity} :
    quantity ∈ (ofCost value).map Constraint.value ↔ value = some quantity := by
  cases value with
  | none => exact iff_of_false List.not_mem_nil nofun
  | some found =>
    change quantity ∈ [found] ↔ _
    rw [List.mem_singleton, Option.some.injEq, eq_comm]

theorem mem_values_ofBound_iff {limit : Bound} {value : Option Quantity} {quantity : Quantity} :
    quantity ∈ (ofBound limit value).map Constraint.value ↔ value = some quantity := by
  cases value with
  | none => exact iff_of_false List.not_mem_nil nofun
  | some found =>
    change quantity ∈ [found] ↔ _
    rw [List.mem_singleton, Option.some.injEq, eq_comm]

end Constraint

namespace Node

/-- The values of the constraints of a node are its costs and bounds, and all of them. -/
theorem holds_iff {node : Node} {quantity : Quantity} :
    node.Holds quantity ↔ quantity ∈ node.constraints.map Constraint.value := by
  cases node with
  | piecewiseLink link =>
    simp only [constraints, Holds, List.map_flatMap, List.map_append, List.mem_flatMap,
      List.mem_append, Constraint.mem_values_ofCost_iff, Constraint.mem_values_ofBound_iff]
  | catchment node =>
    -- the flow is both bounds at once
    simp only [constraints, Holds, List.map_append, List.mem_append,
      Constraint.mem_values_ofCost_iff, Constraint.mem_values_ofBound_iff, or_assoc, or_self]
  | _ =>
    simp only [constraints, constraints.ofFlowNode, Holds, List.map_append, List.mem_append,
      Constraint.mem_values_ofCost_iff, Constraint.mem_values_ofBound_iff, or_assoc]

/-- The references of a node are the parameters among its costs and bounds. -/
theorem mem_parameterReferences_iff_holds {node : Node} {name : String} :
    name ∈ node.parameterReferences ↔ node.Holds (.parameter name) := by
  rw [parameterReferences, Quantity.mem_references, holds_iff]

end Node

end FlowPlan
