import FlowPlan.Proofs.Limits

/-! The views of a node: a build creates engine nodes from one of them, wires edges to another and
sets costs and bounds by a third. They all speak of the same engine nodes and the same
constraints. -/

namespace FlowPlan

namespace Node

/-- The parameters that values are taken from, as the constraints of a node are set one after the
other. -/
def usedParameters (node : Node) : List String :=
  node.engineConstraints.filterMap fun entry => entry.2.value.parameter?

/-- What it is for the views of a node to agree. -/
structure ViewsAgree (node : Node) : Prop where
  /-- What is set on the engine nodes are the constraints of the node, in order. -/
  constraints : node.engineConstraints.map Prod.snd = node.constraints
  /-- A constraint is set on an engine node that is created for the node, or on the group itself. -/
  targets : ∀ entry ∈ node.engineConstraints,
    (node.kind ≠ .aggregated ∧ entry.1 ∈ node.engineNodes.map Prod.fst) ∨
      (node.kind = .aggregated ∧ entry.1 = node.name)
  /-- Edges are attached to all engine nodes that are created for the node. -/
  connectors : node.kind ≠ .aggregated → node.connectors = node.engineNodes.map Prod.fst
  connectors_group : node.kind = .aggregated → node.connectors = [node.name]
  /-- Volumes are bounded where there are any, and flows everywhere else. -/
  bounds : ∀ target limit value, (target, Constraint.bound limit value) ∈ node.engineConstraints →
    (limit.isVolume = true ↔ node.kind = .storage)
  -- flow through a group costs nothing of its own
  costs : node.kind = .aggregated →
    ∀ target value, (target, Constraint.cost value) ∉ node.engineConstraints
  references : ∀ name, name ∈ node.parameterReferences ↔
    ∃ entry ∈ node.engineConstraints, entry.2.value = .parameter name
  /-- A parameter is listed once, where it is first used. -/
  ordered : node.parameterReferences.Pairwise fun a b =>
    node.usedParameters.idxOf a < node.usedParameters.idxOf b

/-- The engine constraints are the constraints, each with an engine node. -/
theorem map_snd_engineConstraints (node : Node) :
    node.engineConstraints.map Prod.snd = node.constraints := by
  cases node with
  | piecewiseLink link =>
    -- the number of a step only tells which engine node its constraints are set on
    have hstep (first : ℕ) (steps : List PiecewiseStep) :
        ((steps.zipIdx first).flatMap fun entry =>
          (Constraint.ofCost entry.1.cost ++ Constraint.ofBound .maxFlow entry.1.maxFlow).map
            fun constraint => (link.stepName entry.2, constraint)).map Prod.snd =
          steps.flatMap fun step =>
            Constraint.ofCost step.cost ++ Constraint.ofBound .maxFlow step.maxFlow := by
      induction steps generalizing first with
      | nil => rfl
      | cons step rest ih =>
        rw [List.zipIdx_cons, List.flatMap_cons, List.flatMap_cons, List.map_append, ih,
          List.map_map]
        exact congrArg (· ++ _) (List.map_id _)
    exact hstep 0 link.steps
  | _ =>
    unfold engineConstraints
    rw [List.map_map]
    exact List.map_id _

theorem connectors_of_kind_eq {node : Node} (h : node.kind = .aggregated) :
    node.connectors = [node.name] := by
  cases node with
  | aggregated group => rfl
  | _ => cases h

/-- A constraint is set on one of the engine nodes that the node is built as, or on the group
itself. -/
theorem target_of_mem_engineConstraints {node : Node} {target : String} {constraint : Constraint}
    (h : (target, constraint) ∈ node.engineConstraints) :
    (node.kind ≠ .aggregated ∧ target ∈ node.engineNodes.map Prod.fst) ∨
      (node.kind = .aggregated ∧ target = node.name) := by
  have htarget := (mem_of_mem_engineConstraints h).1
  by_cases hkind : node.kind = .aggregated
  · rw [connectors_of_kind_eq hkind] at htarget
    exact .inr ⟨hkind, List.mem_singleton.mp htarget⟩
  · rw [connectors_eq_engineNames hkind, ← map_fst_engineNodes] at htarget
    exact .inl ⟨hkind, htarget⟩

theorem usedParameters_eq (node : Node) :
    node.usedParameters =
      (node.constraints.map Constraint.value).filterMap Quantity.parameter? := by
  rw [← map_snd_engineConstraints, List.map_map, List.filterMap_map]
  rfl

/-- The parameters of a node are those of its constraints, in the order of first use. -/
theorem parameterReferences_eq (node : Node) :
    node.parameterReferences = node.usedParameters.eraseDups := by
  rw [usedParameters_eq, parameterReferences, Quantity.references_eq]

theorem mem_parameterReferences_iff_used {node : Node} {name : String} :
    name ∈ node.parameterReferences ↔
      ∃ entry ∈ node.engineConstraints, entry.2.value = .parameter name := by
  rw [parameterReferences_eq, List.mem_eraseDups, usedParameters, List.mem_filterMap]
  simp only [Quantity.parameter?_eq_some_iff]

/-- All views of a node agree, whatever it is built as. -/
theorem views_agree (node : Node) : node.ViewsAgree where
  constraints := node.map_snd_engineConstraints
  targets := fun _ => target_of_mem_engineConstraints
  connectors := fun hkind => (connectors_eq_engineNames hkind).trans node.map_fst_engineNodes.symm
  connectors_group := connectors_of_kind_eq
  bounds := by
    intro target limit value hmem
    exact node.fits_of_mem_constraints _ (mem_of_mem_engineConstraints hmem).2
  costs := by
    intro hkind target value hmem
    exact node.fits_of_mem_constraints _ (mem_of_mem_engineConstraints hmem).2 hkind
  references := fun _ => mem_parameterReferences_iff_used
  ordered := by
    rw [parameterReferences_eq]
    exact pairwise_idxOf_eraseDups _

end Node

end FlowPlan
