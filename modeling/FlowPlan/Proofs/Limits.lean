import FlowPlan.Proofs.Mention
import FlowPlan.Proofs.Recording

namespace FlowPlan

namespace Constraint

def Fits (kind : NodeKind) : Constraint → Prop
  | .cost _ => kind ≠ .aggregated
  | .bound limit _ => limit.isVolume = true ↔ kind = .storage

theorem fits_of_mem_ofCost {kind : NodeKind} (hkind : kind ≠ .aggregated)
    {value : Option Quantity} : ∀ constraint ∈ ofCost value, constraint.Fits kind := by
  intro constraint hmem
  unfold ofCost at hmem
  cases value with
  | none => cases hmem
  | some quantity =>
    rw [List.mem_singleton.mp hmem]
    exact hkind

theorem fits_of_mem_ofBound {kind : NodeKind} {limit : Bound}
    (hlimit : limit.isVolume = true ↔ kind = .storage) {value : Option Quantity} :
    ∀ constraint ∈ ofBound limit value, constraint.Fits kind := by
  intro constraint hmem
  unfold ofBound at hmem
  cases value with
  | none => cases hmem
  | some quantity =>
    rw [List.mem_singleton.mp hmem]
    exact hlimit

/-- A cost and two bounds fit a kind of single nodes that both bounds are for. -/
theorem fits_of_mem_limits {kind : NodeKind} {lower upper : Bound} (hkind : kind ≠ .aggregated)
    (hlower : lower.isVolume = true ↔ kind = .storage)
    (hupper : upper.isVolume = true ↔ kind = .storage) {cost least most : Option Quantity} :
    ∀ constraint ∈ ofCost cost ++ ofBound lower least ++ ofBound upper most,
      constraint.Fits kind := by
  rw [List.forall_mem_append, List.forall_mem_append]
  exact ⟨⟨fits_of_mem_ofCost hkind, fits_of_mem_ofBound hlower⟩, fits_of_mem_ofBound hupper⟩

/-- A cost or a bound that fits its engine node is accepted as soon as the parameter that it names
exists. -/
theorem check_request_iff {plan : Plan} {target : String} {kind : NodeKind}
    (hkind : plan.nodeKind? target = some kind) {constraint : Constraint}
    (hfits : constraint.Fits kind) :
    plan.check (constraint.request target) = .ok () ↔
      ∀ name, constraint.value.parameter? = some name → name ∈ plan.parameterNames := by
  cases constraint with
  | cost value =>
    rw [request, Plan.check_setCost_iff]
    exact and_iff_right ⟨kind, hkind, hfits⟩
  | bound limit value =>
    rw [request, Plan.check_setBound_iff]
    exact and_iff_right ⟨kind, hkind, hfits⟩

end Constraint

namespace Node

/-- The constraints of a node fit its kind. -/
theorem fits_of_mem_constraints (node : Node) :
    ∀ constraint ∈ node.constraints, constraint.Fits node.kind := by
  -- each kind of node has the limits that its engine nodes can take
  cases node with
  | input flow =>
    change ∀ constraint ∈ constraints.ofFlowNode flow, constraint.Fits .input
    exact Constraint.fits_of_mem_limits (by decide) (by decide) (by decide)
  | link flow =>
    change ∀ constraint ∈ constraints.ofFlowNode flow, constraint.Fits .link
    exact Constraint.fits_of_mem_limits (by decide) (by decide) (by decide)
  | output flow =>
    change ∀ constraint ∈ constraints.ofFlowNode flow, constraint.Fits .output
    exact Constraint.fits_of_mem_limits (by decide) (by decide) (by decide)
  | storage storage =>
    change ∀ constraint ∈ (Node.storage storage).constraints, constraint.Fits .storage
    exact Constraint.fits_of_mem_limits (by decide) (by decide) (by decide)
  | catchment catchment =>
    change ∀ constraint ∈ (Node.catchment catchment).constraints, constraint.Fits .input
    exact Constraint.fits_of_mem_limits (by decide) (by decide) (by decide)
  | aggregated group =>
    change ∀ constraint ∈ (Node.aggregated group).constraints, constraint.Fits .aggregated
    unfold constraints
    rw [List.forall_mem_append]
    exact ⟨Constraint.fits_of_mem_ofBound (by decide), Constraint.fits_of_mem_ofBound (by decide)⟩
  | piecewiseLink link =>
    change ∀ constraint ∈ (Node.piecewiseLink link).constraints, constraint.Fits .link
    unfold constraints
    rw [List.forall_mem_flatMap]
    intro step _
    rw [List.forall_mem_append]
    exact ⟨Constraint.fits_of_mem_ofCost (by decide), Constraint.fits_of_mem_ofBound (by decide)⟩

/-- Constraints are set on engine nodes that the node stands for. -/
theorem mem_of_mem_engineConstraints {node : Node} {target : String} {constraint : Constraint}
    (h : (target, constraint) ∈ node.engineConstraints) :
    target ∈ node.connectors ∧ constraint ∈ node.constraints := by
  -- only the limits of a link are spread over several engine nodes
  cases node with
  | piecewiseLink link =>
    unfold engineConstraints at h
    obtain ⟨⟨step, index⟩, hstep, hentry⟩ := List.mem_flatMap.mp h
    obtain ⟨other, hother, hsame⟩ := List.mem_map.mp hentry
    cases hsame
    obtain ⟨hindex, hget⟩ := List.mem_zipIdx' hstep
    refine ⟨PiecewiseLink.mem_stepNames.mpr ⟨index, hindex, rfl⟩, ?_⟩
    exact List.mem_flatMap.mpr ⟨step, hget ▸ List.getElem_mem hindex, hother⟩
  | _ =>
    obtain ⟨other, hother, hsame⟩ := List.mem_map.mp h
    cases hsame
    exact ⟨List.mem_singleton.mpr rfl, hother⟩

/-- Each cost and bound of a node is set on some engine node. -/
theorem exists_mem_engineConstraints {node : Node} {constraint : Constraint}
    (h : constraint ∈ node.constraints) :
    ∃ target, (target, constraint) ∈ node.engineConstraints := by
  cases node with
  | piecewiseLink link =>
    obtain ⟨step, hstep, hconstraint⟩ := List.mem_flatMap.mp h
    obtain ⟨index, hindex, rfl⟩ := List.mem_iff_getElem.mp hstep
    have hentry : (link.steps[index], index) ∈ link.steps.zipIdx := by
      rw [List.mk_mem_zipIdx_iff_getElem?]
      exact List.getElem?_eq_getElem hindex
    refine ⟨link.stepName index, List.mem_flatMap.mpr ⟨_, hentry, ?_⟩⟩
    exact List.mem_map.mpr ⟨constraint, hconstraint, rfl⟩
  | _ => exact ⟨_, List.mem_map.mpr ⟨constraint, h, rfl⟩⟩

theorem mem_parameterReferences {node : Node} {name : String} :
    name ∈ node.parameterReferences ↔
      ∃ constraint ∈ node.constraints, constraint.value.parameter? = some name := by
  rw [parameterReferences, Quantity.mem_references, List.mem_map]
  simp only [Quantity.parameter?_eq_some_iff]

end Node

/-- The engine nodes that a node stands for are of the kind of the node. -/
theorem Founded.nodeKind?_of_mem_connectors {model : Model} {plan : Plan} (h : Founded model plan)
    {node : Node} (hnode : node ∈ model.nodes.entities) {target : String}
    (htarget : target ∈ node.connectors) : plan.nodeKind? target = some node.kind := by
  cases node with
  | aggregated group =>
    rw [List.mem_singleton.mp htarget]
    exact h.nodeKind?_of_group hnode
  | piecewiseLink link => exact h.nodeKind?_of_mem_engineNodes hnode (List.mem_map_of_mem htarget)
  | _ =>
    refine h.nodeKind?_of_mem_engineNodes hnode (List.mem_singleton.mpr ?_)
    rw [List.mem_singleton.mp htarget]

namespace Model

variable {model : Model} {plan : Plan}

theorem silent_of_mem_limitRequests :
    ∀ request ∈ model.nodes.entities.flatMap constraintRequests, request.Silent := by
  intro request hrequest
  obtain ⟨node, -, hrequest⟩ := List.mem_flatMap.mp hrequest
  obtain ⟨⟨target, constraint⟩, -, rfl⟩ := List.mem_map.mp hrequest
  cases constraint with
  | _ => exact ⟨rfl, rfl, rfl, rfl⟩

/-- The costs and bounds of all nodes can be set when the parameters they name are declared. -/
theorem admits_constraintRequests_iff (h : Founded model plan) (hsupplied : Supplied model plan) :
    plan.Admits (model.nodes.entities.flatMap constraintRequests) ↔
      ∀ node ∈ model.nodes.entities, ∀ name, node.Holds (.parameter name) →
        model.parameters.contains name = true := by
  -- limits declare nothing, so each can be checked in the plan as it is before all of them
  rw [Plan.admits_iff_of_silent silent_of_mem_limitRequests, List.forall_mem_flatMap]
  simp only [← Node.mem_parameterReferences_iff_holds]
  refine forall₂_congr fun node hnode => ?_
  -- the node is there and takes the limit, so only the parameter of the value matters
  have hcheck (target : String) (constraint : Constraint)
      (hmem : (target, constraint) ∈ node.engineConstraints) :
      plan.check (constraint.request target) = .ok () ↔
        ∀ name, constraint.value.parameter? = some name →
          model.parameters.contains name = true := by
    obtain ⟨htarget, hconstraint⟩ := Node.mem_of_mem_engineConstraints hmem
    rw [Constraint.check_request_iff (h.nodeKind?_of_mem_connectors hnode htarget)
      (node.fits_of_mem_constraints constraint hconstraint)]
    simp only [hsupplied _]
  unfold constraintRequests
  rw [List.forall_mem_map]
  constructor
  · intro hall name hname
    obtain ⟨constraint, hconstraint, hvalue⟩ := Node.mem_parameterReferences.mp hname
    obtain ⟨target, hmem⟩ := Node.exists_mem_engineConstraints hconstraint
    exact (hcheck target constraint hmem).mp (hall _ hmem) name hvalue
  · rintro hall ⟨target, constraint⟩ hmem
    refine (hcheck target constraint hmem).mpr fun name hvalue => ?_
    have hconstraint := (Node.mem_of_mem_engineConstraints hmem).2
    exact hall name (Node.mem_parameterReferences.mpr ⟨constraint, hconstraint, hvalue⟩)

end Model

end FlowPlan
