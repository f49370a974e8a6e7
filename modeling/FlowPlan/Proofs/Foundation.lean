import FlowPlan.Proofs.Network

namespace FlowPlan

/-- Whether the nodes of a plan are the engine nodes of a model. -/
structure Founded (model : Model) (plan : Plan) : Prop where
  nodes_eq : plan.nodes = model.network ++ model.groupNodes
  distinct : model.StepsDistinct

namespace Founded

variable {model : Model} {plan : Plan}

/-- The requests for the nodes of a model, put to a plan without nodes, lay its foundation. -/
theorem of_nodeRequests (hdistinct : model.StepsDistinct) (hplan : plan.nodes = []) :
    Founded model (plan.addAll model.nodeRequests) where
  nodes_eq := by
    rw [Plan.nodes_addAll, hplan, List.nil_append, Model.nodeRequests_eq, List.filterMap_append,
      Model.filterMap_node?_singleRequests, Model.filterMap_node?_groupRequests]
    rfl
  distinct := hdistinct

theorem of_nodes_eq (h : Founded model plan) {other : Plan} (hother : other.nodes = plan.nodes) :
    Founded model other where
  nodes_eq := hother.trans h.nodes_eq
  distinct := h.distinct

/-- The plan knows the engine nodes of the model, with their kinds, and no others. -/
theorem nodeKind?_eq_some_iff (h : Founded model plan) {name : String} {kind : NodeKind} :
    plan.nodeKind? name = some kind ↔
      (name, kind) ∈ model.network ∨ (name, kind) ∈ model.groupNodes := by
  unfold Plan.nodeKind?
  rw [h.nodes_eq, lookup_eq_some_iff_mem (Model.nodup_names_iff.mpr h.distinct), List.mem_append]

/-- The single nodes of the plan are the engine nodes of nodes that are no groups. -/
theorem exists_kind_iff (h : Founded model plan) {name : String} :
    (∃ kind, plan.nodeKind? name = some kind ∧ kind ≠ .aggregated) ↔
      name ∈ model.engineNames := by
  unfold Plan.nodeKind?
  rw [h.nodes_eq, ← Model.map_fst_network]
  refine Model.exists_lookup_iff (fun _ => Model.kind_ne_of_mem_network) fun entry hentry => ?_
  obtain ⟨group, -, rfl⟩ := Model.mem_groupNodes.mp hentry
  rfl

/-- A name is known to the plan when it is that of a single engine node or of a group. -/
theorem nodeKind?_ne_none_iff (h : Founded model plan) {name : String} :
    plan.nodeKind? name ≠ none ↔ name ∈ model.engineNames ∨
      ∃ group, .aggregated group ∈ model.nodes.entities ∧ group.name = name := by
  rw [ne_eq, Plan.nodeKind?_eq_none_iff, not_not, h.nodes_eq, List.map_append, List.mem_append,
    Model.map_fst_network]
  refine or_congr Iff.rfl ?_
  constructor
  · intro hname
    obtain ⟨entry, hentry, rfl⟩ := List.mem_map.mp hname
    obtain ⟨group, hgroup, rfl⟩ := Model.mem_groupNodes.mp hentry
    exact ⟨group, hgroup, rfl⟩
  · rintro ⟨group, hgroup, rfl⟩
    exact List.mem_map.mpr ⟨_, Model.mem_groupNodes.mpr ⟨group, hgroup, rfl⟩, rfl⟩

theorem nodeKind?_of_mem_engineNodes (h : Founded model plan) {node : Node}
    (hnode : node ∈ model.nodes.entities) {name : String} {kind : NodeKind}
    (hentry : (name, kind) ∈ node.engineNodes) : plan.nodeKind? name = some kind :=
  h.nodeKind?_eq_some_iff.mpr (Or.inl (List.mem_flatMap.mpr ⟨node, hnode, hentry⟩))

theorem nodeKind?_of_group (h : Founded model plan) {group : AggregatedNode}
    (hgroup : .aggregated group ∈ model.nodes.entities) :
    plan.nodeKind? group.name = some .aggregated :=
  h.nodeKind?_eq_some_iff.mpr (Or.inr (Model.mem_groupNodes.mpr ⟨group, hgroup, rfl⟩))

/-- The storage nodes of the plan are those of the model. -/
theorem nodeKind?_eq_storage_iff (h : Founded model plan) {name : String} :
    plan.nodeKind? name = some .storage ↔
      ∃ storage, .storage storage ∈ model.nodes.entities ∧ storage.name = name := by
  rw [h.nodeKind?_eq_some_iff]
  constructor
  · rintro (hentry | hentry)
    · obtain ⟨node, hnode, hentry⟩ := List.mem_flatMap.mp hentry
      -- a link gives engine nodes for its steps, none of which is a storage
      cases node with
      | aggregated group => cases hentry
      | piecewiseLink link =>
        obtain ⟨step, -, hstep⟩ := List.mem_map.mp hentry
        cases hstep
      | storage storage =>
        cases List.mem_singleton.mp hentry
        exact ⟨storage, hnode, rfl⟩
      | _ => cases List.mem_singleton.mp hentry
    · obtain ⟨group, -, hsame⟩ := Model.mem_groupNodes.mp hentry
      cases hsame
  · rintro ⟨storage, hstorage, rfl⟩
    exact Or.inl (List.mem_flatMap.mpr ⟨_, hstorage, List.mem_singleton.mpr rfl⟩)

end Founded

/-- The engine nodes of the steps of a node, if it is a piecewise link of the given name. -/
def Node.stepsUnder? (name : String) : Node → Option (List String)
  | piecewiseLink node =>
    if node.name = name then some ((List.range node.steps.length).map node.stepName) else none
  | _ => none

namespace Model

/-- The engine nodes that a name stands for: the steps of the piecewise link that is declared under
it, in order, and otherwise just what has that name. -/
def standIns (model : Model) (name : String) : List String :=
  (model.nodes.entities.findSome? (Node.stepsUnder? name)).getD [name]

variable {model : Model}

def Attachable (model : Model) (name : String) : Prop :=
  (∃ node ∈ model.nodes.entities, node.name = name ∧ node.kind ≠ .aggregated) ∨
    (model.nodes.contains name = false ∧ name ∈ model.engineNames)

theorem connectors_of_mem {node : Node} (hnode : node ∈ model.nodes.entities) :
    model.connectors node.name = node.connectors := by
  have hfound : model.nodes.find? node.name = some node :=
    Collection.find?_eq_some_iff.mpr ⟨hnode, rfl⟩
  rw [connectors, hfound]

/-- A name under which nothing is declared stands for itself. -/
theorem connectors_of_not_declared {name : String} (h : model.nodes.contains name = false) :
    model.connectors name = [name] := by
  rw [connectors, Collection.find?_eq_none_iff.mpr h]

theorem declared_or_not (model : Model) (name : String) :
    (∃ node ∈ model.nodes.entities, node.name = name) ∨ model.nodes.contains name = false := by
  cases hcontains : model.nodes.contains name with
  | false => exact Or.inr rfl
  | true => exact Or.inl (Collection.contains_iff.mp hcontains)

/-- What the code takes for the engine nodes of a name are those that the name stands for. -/
theorem connectors_eq_standIns (model : Model) (name : String) :
    model.connectors name = model.standIns name := by
  -- only a piecewise link has steps under its name
  have hlinks {node : Node} {steps : List String} (h : node.stepsUnder? name = some steps) :
      node.name = name ∧ node.connectors = steps := by
    cases node with
    | piecewiseLink link =>
      simp only [Node.stepsUnder?, Option.ite_none_right_eq_some, Option.some.injEq] at h
      exact h
    | _ => cases h
  unfold standIns
  cases hfound : model.nodes.entities.findSome? (Node.stepsUnder? name) with
  | some steps =>
    obtain ⟨node, hnode, hsteps⟩ := List.exists_of_findSome?_eq_some hfound
    obtain ⟨rfl, hconnectors⟩ := hlinks hsteps
    rw [connectors_of_mem hnode, hconnectors, Option.getD_some]
  | none =>
    have hnone := List.findSome?_eq_none_iff.mp hfound
    rw [Option.getD_none]
    rcases model.declared_or_not name with ⟨node, hnode, rfl⟩ | hnot
    · -- a node of that name is no piecewise link, or its steps would have been found
      rw [connectors_of_mem hnode]
      cases node with
      | piecewiseLink link =>
        have hsteps := hnone _ hnode
        simp [Node.stepsUnder?, Node.name] at hsteps
      | _ => rfl
    · exact connectors_of_not_declared hnot

/-- Every name stands for some engine node, since a piecewise link has at least one step. -/
theorem connectors_ne_nil (hvalid : model.Valid) (name : String) : model.connectors name ≠ [] := by
  rcases model.declared_or_not name with ⟨node, hnode, rfl⟩ | hnot
  · rw [connectors_of_mem hnode]
    cases node with
    | piecewiseLink link => exact hvalid.stepNames_ne_nil hnode
    | _ => exact List.cons_ne_nil _ _
  · rw [connectors_of_not_declared hnot]
    exact List.cons_ne_nil _ _

/-- Edges can be attached to a name when all engine nodes that it stands for are single ones. -/
theorem forall_connectors_iff (hdistinct : model.StepsDistinct) {name : String} :
    (∀ connector ∈ model.connectors name, connector ∈ model.engineNames) ↔
      model.Attachable name := by
  rcases model.declared_or_not name with ⟨node, hnode, rfl⟩ | hnot
  · have hdeclared : model.nodes.contains node.name = true := Collection.contains_of_mem hnode
    rw [connectors_of_mem hnode]
    constructor
    · intro hall
      refine Or.inl ⟨node, hnode, rfl, fun hkind => ?_⟩
      cases node with
      | aggregated group =>
        -- the name of a group is no engine name, or it would stand for two nodes
        obtain ⟨other, hother, hname⟩ :=
          mem_engineNames.mp (hall group.name (List.mem_singleton.mpr rfl))
        have hnames := nodup_names_iff.mpr hdistinct
        rw [List.map_append, map_fst_network, List.nodup_append] at hnames
        refine hnames.2.2 _ (mem_engineNames.mpr ⟨other, hother, hname⟩) group.name ?_ rfl
        exact List.mem_map.mpr ⟨_, mem_groupNodes.mpr ⟨group, hnode, rfl⟩, rfl⟩
      | _ => cases hkind
    · rintro (⟨other, hother, hname, hkind⟩ | ⟨hnot, -⟩) connector hconnector
      · have hsame : other = node := Collection.eq_of_name_eq hother hnode hname
        subst hsame
        rw [Node.connectors_eq_engineNames hkind] at hconnector
        exact mem_engineNames.mpr ⟨other, hother, hconnector⟩
      · rw [hdeclared] at hnot
        cases hnot
  · rw [connectors_of_not_declared hnot, List.forall_mem_singleton]
    constructor
    · exact fun hname => Or.inr ⟨hnot, hname⟩
    · rintro (⟨node, hnode, rfl, -⟩ | ⟨-, hname⟩)
      · have hdeclared : model.nodes.contains node.name = true := Collection.contains_of_mem hnode
        rw [hdeclared] at hnot
        cases hnot
      · exact hname

theorem silent_of_mem_edgeRequests :
    ∀ request ∈ model.edges.flatMap model.edgeRequests, request.Silent := by
  intro request hrequest
  obtain ⟨edge, -, hrequest⟩ := List.mem_flatMap.mp hrequest
  obtain ⟨source, -, hrequest⟩ := List.mem_flatMap.mp hrequest
  obtain ⟨target, -, rfl⟩ := List.mem_map.mp hrequest
  exact ⟨rfl, rfl, rfl, rfl⟩

/-- The edges of a valid model can be created when both ends of each can be attached to. -/
theorem admits_edgeRequests_iff (hvalid : model.Valid) {plan : Plan} (h : Founded model plan) :
    plan.Admits (model.edges.flatMap model.edgeRequests) ↔
      ∀ edge ∈ model.edges, model.Attachable edge.source ∧ model.Attachable edge.target := by
  rw [Plan.admits_iff_of_silent silent_of_mem_edgeRequests]
  simp only [← forall_connectors_iff h.distinct, List.forall_mem_flatMap]
  refine forall₂_congr fun edge _ => ?_
  unfold edgeRequests
  simp only [List.forall_mem_flatMap, List.forall_mem_map, Plan.check_connect_iff,
    h.exists_kind_iff]
  -- neither end stands for nothing, so each connection of one end checks the other end too
  obtain ⟨source, hsource⟩ := List.exists_mem_of_ne_nil _ (connectors_ne_nil hvalid edge.source)
  obtain ⟨target, htarget⟩ := List.exists_mem_of_ne_nil _ (connectors_ne_nil hvalid edge.target)
  constructor
  · intro hall
    exact ⟨fun c hc => (hall c hc target htarget).1, fun c hc => (hall source hsource c hc).2⟩
  · rintro ⟨hs, ht⟩ c hc d hd
    exact ⟨hs c hc, ht d hd⟩

end Model

end FlowPlan
