import FlowPlan.Proofs.Standstill

/-! The errors that the build of a loaded model on a new plan can end with. Each of them tells what
is wrong with the model, and many refusals that a plan is able to give are not among them. -/

namespace FlowPlan

/-- An item that is met twice in the lists of some owners belongs to two of them, when none has it
twice. -/
theorem exists_ne_of_mem_before {α : Type} {f : α → List String} {xs : List α}
    (hf : ∀ a ∈ xs, (f a).Nodup) (hxs : xs.Nodup) {before after : List String} {x : String}
    (h : xs.flatMap f = before ++ x :: after) (hx : x ∈ before) :
    ∃ a ∈ xs, ∃ b ∈ xs, a ≠ b ∧ x ∈ f a ∧ x ∈ f b := by
  by_contra hnone
  push Not at hnone
  -- otherwise the item would be met only once
  have honce : ((xs.flatMap f).filter (· = x)).Nodup := by
    rw [List.filter_flatMap, List.nodup_flatMap]
    refine ⟨fun a ha => (hf a ha).filter _, hxs.pairwise_of_forall_ne ?_⟩
    intro a ha b hb hne y hya hyb
    obtain ⟨hfa, hy⟩ := List.mem_filter.mp hya
    obtain ⟨hfb, -⟩ := List.mem_filter.mp hyb
    have hsame : y = x := of_decide_eq_true hy
    rw [hsame] at hfa hfb
    exact hnone a ha b hb hne hfa hfb
  rw [h, List.filter_append, List.nodup_append] at honce
  have hfirst : x ∈ before.filter (· = x) := List.mem_filter.mpr ⟨hx, decide_eq_true rfl⟩
  have hsecond : x ∈ (x :: after).filter (· = x) :=
    List.mem_filter.mpr ⟨List.mem_cons_self, decide_eq_true rfl⟩
  exact honce.2.2 x hfirst x hsecond rfl

namespace Constraint

/-- A constraint that fits what it is set on is refused only for the parameter that it names. -/
theorem of_check_request_eq_error {plan : Plan} {target : String} {kind : NodeKind}
    (hkind : plan.nodeKind? target = some kind) {constraint : Constraint}
    (hfits : constraint.Fits kind) {e : EngineError}
    (h : plan.check (constraint.request target) = .error e) :
    ∃ name, constraint.value.parameter? = some name ∧ name ∉ plan.parameterNames ∧
      e = .unknownParameter name := by
  -- the node is there and takes the bound, so only the quantity can be at fault
  have hnode : plan.requireNode target = .ok kind := Plan.requireNode_eq_ok_iff.mpr hkind
  cases constraint with
  | cost value =>
    rw [request, Plan.check, hnode] at h
    rcases refusal_eq_error_iff.mp h with ⟨hagg, -⟩ | ⟨-, hvalue⟩
    · exact absurd hagg hfits
    · exact Plan.requireQuantity_eq_error_iff.mp hvalue
  | bound limit value =>
    rw [request, Plan.check, hnode] at h
    rcases refusal_eq_error_iff.mp h with ⟨hother, -⟩ | ⟨-, hvalue⟩
    · refine absurd ?_ hother
      rw [Bool.eq_iff_iff, beq_iff_eq]
      exact hfits
    · exact Plan.requireQuantity_eq_error_iff.mp hvalue

end Constraint

namespace Founded

variable {model : Model} {plan : Plan}

/-- What a name stands for is unknown only when the name is neither that of a node nor of an engine
node. -/
theorem of_connector_unknown (h : Founded model plan) {name connector : String}
    (hconnector : connector ∈ model.connectors name)
    (hunknown : plan.nodeKind? connector = none) :
    connector = name ∧ model.nodes.contains name = false ∧ name ∉ model.engineNames := by
  -- what is declared, or is a step, has no connector that the plan does not know
  have hnot : ¬(model.nodes.contains name = true ∨ name ∈ model.engineNames) := by
    rw [← Model.forall_connectors_known_iff h]
    intro hall
    obtain ⟨kind, hkind⟩ := hall connector hconnector
    rw [hunknown] at hkind
    cases hkind
  push Not at hnot
  have hundeclared : model.nodes.contains name = false := Bool.eq_false_of_not_eq_true hnot.1
  rw [Model.connectors_of_not_declared hundeclared] at hconnector
  exact ⟨List.mem_singleton.mp hconnector, hundeclared, hnot.2⟩

/-- What a name stands for is a group only when the name is that of the group. -/
theorem of_connector_grouped (h : Founded model plan) {name connector : String}
    (hconnector : connector ∈ model.connectors name)
    (hgrouped : plan.nodeKind? connector = some .aggregated) :
    connector = name ∧ ∃ group, .aggregated group ∈ model.nodes.entities ∧ group.name = name := by
  rcases model.declared_or_not name with ⟨node, hnode, rfl⟩ | hnot
  · rw [Model.connectors_of_mem hnode] at hconnector
    rw [h.nodeKind?_of_mem_connectors hnode hconnector] at hgrouped
    cases node with
    | aggregated group => exact ⟨List.mem_singleton.mp hconnector, group, hnode, rfl⟩
    | _ => cases hgrouped
  · rw [Model.connectors_of_not_declared hnot] at hconnector
    have hsame := List.mem_singleton.mp hconnector
    subst hsame
    refine ⟨rfl, ?_⟩
    rcases h.nodeKind?_eq_some_iff.mp hgrouped with hentry | hentry
    · exact absurd rfl (Model.kind_ne_of_mem_network hentry)
    · obtain ⟨group, hgroup, hentry⟩ := Model.mem_groupNodes.mp hentry
      exact ⟨group, hgroup, congrArg Prod.fst hentry⟩

end Founded

namespace Model

/-- The errors that a build can end with, each with what is wrong with the model. -/
inductive Fault (model : Model) : ModelError → Prop
  /-- A node is called like a step of a piecewise link. -/
  | stepTaken {link : PiecewiseLink} {node : Node} {entity : String}
      (link_mem : .piecewiseLink link ∈ model.nodes.entities)
      (node_mem : node ∈ model.nodes.entities) (single : ¬node.IsPiecewise)
      (taken : node.name ∈ link.stepNames) :
      Fault model (.engine .nodes entity (.duplicateName "node" node.name))
  -- A member of a group is the name of no engine node, and may be that of a piecewise link.
  | memberUnknown {group : AggregatedNode} {member entity : String}
      (group_mem : .aggregated group ∈ model.nodes.entities) (member_mem : member ∈ group.members)
      (unknown : member ∉ model.engineNames) :
      Fault model (.engine .nodes entity (.unknownNode member))
  | memberGrouped {group inner : AggregatedNode} {entity : String}
      (group_mem : .aggregated group ∈ model.nodes.entities)
      (inner_mem : .aggregated inner ∈ model.nodes.entities)
      (member_mem : inner.name ∈ group.members) :
      Fault model (.engine .nodes entity
        (.other ("aggregated node \"" ++ group.name ++ "\" cannot contain aggregated node \"" ++
          inner.name ++ "\"")))
  -- An edge ends in a name that is neither declared nor a step.
  | endUnknown {edge : Edge} {name entity : String} (edge_mem : edge ∈ model.edges)
      (ends : name = edge.source ∨ name = edge.target)
      (undeclared : model.nodes.contains name = false) (unknown : name ∉ model.engineNames) :
      Fault model (.engine .edges entity (.unknownNode name))
  | endGrouped {edge : Edge} {group : AggregatedNode} {entity : String}
      (edge_mem : edge ∈ model.edges) (group_mem : .aggregated group ∈ model.nodes.entities)
      (ends : group.name = edge.source ∨ group.name = edge.target) :
      Fault model (.engine .edges entity
        (.other ("aggregated node \"" ++ group.name ++ "\" cannot be connected")))
  -- A data frame without a file of its own names a table that is not declared.
  | tableMissing {frame : DataFrameParameter} {table : String}
      (frame_mem : .dataFrame frame ∈ model.parameters.entities) (bare : frame.url = none)
      (named : frame.table = some table) (undeclared : model.tables.contains table = false) :
      Fault model (.notFound .tables table)
  -- A parameter reads a node that is not created under its name.
  | storageUnknown {p : Parameter} {name entity : String}
      (parameter_mem : p ∈ model.parameters.entities) (read : p.Stores name)
      (unknown : name ∉ model.engineNames)
      (single : ∀ group, .aggregated group ∈ model.nodes.entities → group.name ≠ name) :
      Fault model (.engine .parameters entity (.unknownNode name))
  -- Parameters that cannot be created, as the resolution reports them.
  | circular {parameters : List String} : Fault model (.cyclicDependency parameters)
  | astray {parameters missing cyclic : List String} :
      Fault model (.unresolvedReference parameters missing cyclic)
  | watchedUnknown {recorder : Recorder} {name entity : String}
      (recorder_mem : recorder ∈ model.recorders.entities)
      (watched : recorder.Watches name)
      (undeclared : model.nodes.contains name = false) (unknown : name ∉ model.engineNames) :
      Fault model (.engine .recorders entity (.unknownNode name))
  /-- A recorder of volumes watches an engine node that holds none. -/
  | notStorage {recorder : NodeRecorder} {target entity : String} {kind : NodeKind}
      (recorder_mem : .storageVolume recorder ∈ model.recorders.entities)
      (watched : target ∈ model.standIns recorder.node)
      (known : (target, kind) ∈ model.network ++ model.groupNodes) (other : kind ≠ .storage) :
      Fault model (.engine .recorders entity
        (.other ("recorder \"" ++ recorder.name ++ "\" needs a storage node but \"" ++ target ++
          "\" is a " ++ kind.phrase ++ " node")))
  | watchedMissing {recorder : ParameterRecorder} {entity : String}
      (recorder_mem : .parameter recorder ∈ model.recorders.entities)
      (undeclared : model.parameters.contains recorder.parameter = false) :
      Fault model (.engine .recorders entity (.unknownParameter recorder.parameter))
  | limitMissing {node : Node} {name entity : String} (node_mem : node ∈ model.nodes.entities)
      (named : node.Holds (.parameter name))
      (undeclared : model.parameters.contains name = false) :
      Fault model (.engine .constraints entity (.unknownParameter name))

variable {model : Model} {plan : Plan} {e : ModelError}

open Build

/-- Nodes that are no groups are refused only where one is called like a step. -/
theorem fault_of_single (solvers : List String)
    (h : (Plan.new solvers).Refuses (model.nodes.entities.flatMap Node.requests) e) :
    model.Fault e := by
  cases h with
  | @intro before after request entity source split _ refused =>
    have hdeclare : ∀ r ∈ model.nodes.entities.flatMap Node.requests,
        ∃ kind, r.node? = some (r.declared, kind) := by
      intro r hr
      obtain ⟨name, kind, volume, rfl, -⟩ := exists_of_mem_singleRequests hr
      exact ⟨kind, rfl⟩
    have hmem : request ∈ model.nodes.entities.flatMap Node.requests := by simp [split]
    obtain ⟨name, kind, volume, rfl, hkind⟩ := exists_of_mem_singleRequests hmem
    obtain ⟨htaken, rfl⟩ := Plan.of_check_addNode_eq_error hkind refused
    have hbefore : ∀ r ∈ before, ∃ kind, r.node? = some (r.declared, kind) :=
      fun r hr => hdeclare r (by simp [split, hr])
    rw [Plan.nodes_addAll, List.map_append, map_fst_filterMap_node? hbefore] at htaken
    change name ∈ [] ++ before.map Request.declared at htaken
    rw [List.nil_append] at htaken
    -- the name is met before, so it is that of two nodes
    have hnames : model.nodes.entities.flatMap Node.engineNames =
        before.map Request.declared ++ name :: after.map Request.declared := by
      change model.engineNames = _
      rw [← map_fst_network, ← filterMap_node?_singleRequests, map_fst_filterMap_node? hdeclare,
        split, List.map_append, List.map_cons]
      rfl
    obtain ⟨a, ha, b, hb, hne, hna, hnb⟩ := exists_ne_of_mem_before
      (fun node _ => node.nodup_engineNames) (List.Nodup.of_map _ model.nodes.nodup) hnames htaken
    obtain ⟨link, hlink, node, hnode, hsingle, rfl, hstep⟩ := exists_step_of_ne ha hb hne hna hnb
    exact .stepTaken hlink hnode hsingle hstep

/-- On a plan that has all other nodes, groups are refused only for their names and members. -/
theorem fault_of_group (hvalid : model.Valid) (hplan : plan.nodes = model.network)
    (h : plan.Refuses (model.groups.map AggregatedNode.request) e) : model.Fault e := by
  obtain ⟨earlier, group, later, entity, source, hgroups, refused, rfl⟩ := h.exists_of_map
  have hgroup : .aggregated group ∈ model.nodes.entities := mem_groups.mp (by simp [hgroups])
  have hearlier : ∀ other ∈ earlier, .aggregated other ∈ model.nodes.entities :=
    fun other hother => mem_groups.mp (by simp [hgroups, hother])
  -- when the turn of the group comes, the plan has all single nodes and the groups before it
  have hnodes : (plan.addAll (earlier.map AggregatedNode.request)).nodes =
      model.network ++ earlier.map AggregatedNode.engineNode := by
    rw [Plan.nodes_addAll, hplan, filterMap_node?_groupRequests]
  have hnames : (earlier.map AggregatedNode.engineNode).map Prod.fst =
      earlier.map AggregatedNode.name := by
    rw [List.map_map]
    rfl
  rcases Plan.of_check_addAggregatedNode_eq_error (hvalid.length_factors hgroup) refused with
    ⟨htaken, rfl⟩ | ⟨member, hmember, ⟨hnone, rfl⟩ | ⟨hgrouped, rfl⟩⟩
  · -- the name is that of an engine node; no earlier group has it, since names are distinct
    rw [hnodes, List.map_append, map_fst_network, hnames, List.mem_append] at htaken
    rcases htaken with hname | hname
    · obtain ⟨node, hnode, hname⟩ := mem_engineNames.mp hname
      by_cases hpiecewise : node.IsPiecewise
      · obtain ⟨link, rfl⟩ := hpiecewise
        rw [Node.engineNames_piecewiseLink] at hname
        refine Fault.stepTaken hnode hgroup ?_ hname
        rintro ⟨other, hother⟩
        cases hother
      · -- a single node of the name of the group would be the group itself
        have hsame : node = .aggregated group := Collection.eq_of_name_eq hnode hgroup
          (Node.eq_name_of_mem_engineNames hpiecewise hname).symm
        rw [hsame] at hname
        cases hname
    · have hnodup : (model.groups.map AggregatedNode.name).Nodup :=
        (sublist_groupNames model.nodes.entities).nodup model.nodes.nodup
      rw [hgroups, List.map_append, List.map_cons, List.nodup_append] at hnodup
      exact absurd rfl (hnodup.2.2 group.name hname group.name List.mem_cons_self)
  · rw [Plan.nodeKind?_eq_none_iff, hnodes, List.map_append, List.mem_append,
      map_fst_network] at hnone
    exact .memberUnknown hgroup hmember fun hname => hnone (Or.inl hname)
  · -- no single node is a group, so the member is one of the groups before
    have hentry := mem_of_lookup_eq_some hgrouped
    rw [hnodes, List.mem_append] at hentry
    rcases hentry with hentry | hentry
    · exact absurd rfl (kind_ne_of_mem_network hentry)
    · obtain ⟨inner, hinner, hsame⟩ := List.mem_map.mp hentry
      have hname : inner.name = member := congrArg Prod.fst hsame
      subst hname
      exact .memberGrouped hgroup (hearlier inner hinner) hmember

/-- An edge is refused for an end that is a group, or that is declared nowhere. -/
theorem fault_of_edge (h : Founded model plan)
    (hrefused : plan.Refuses (model.edges.flatMap model.edgeRequests) e) : model.Fault e := by
  obtain ⟨request, hmem, entity, source, refused, rfl⟩ :=
    hrefused.exists_of_silent silent_of_mem_edgeRequests
  obtain ⟨edge, hedge, hrequest⟩ := List.mem_flatMap.mp hmem
  obtain ⟨first, hfirst, hrequest⟩ := List.mem_flatMap.mp hrequest
  obtain ⟨second, hsecond, rfl⟩ := List.mem_map.mp hrequest
  obtain ⟨connector, hends, hwrong⟩ := Plan.of_check_connect_eq_error refused
  -- the engine node that is wrong belongs to one end of the edge
  obtain ⟨name, hname, hconnector⟩ : ∃ name, (name = edge.source ∨ name = edge.target) ∧
      connector ∈ model.connectors name := by
    rcases hends with rfl | rfl
    · exact ⟨edge.source, Or.inl rfl, hfirst⟩
    · exact ⟨edge.target, Or.inr rfl, hsecond⟩
  rcases hwrong with ⟨hunknown, rfl⟩ | ⟨hgrouped, rfl⟩
  · obtain ⟨rfl, hundeclared, hnot⟩ := h.of_connector_unknown hconnector hunknown
    exact .endUnknown hedge hname hundeclared hnot
  · obtain ⟨rfl, group, hgroup, rfl⟩ := h.of_connector_grouped hconnector hgrouped
    exact .endGrouped hedge hgroup hname

/-- The parameters fail for a missing table or storage node, or because they are stuck with each
other. -/
theorem fault_of_resolve (hvalid : model.Valid) (h : Founded model plan)
    (hnew : plan.parameters = []) {stopped : Plan}
    (hend : outcome (Resolution.resolve Plan.engine model.specContext model.parameters) plan =
      (.error e, stopped)) : model.Fault e := by
  have hstandstill : model.Standstill plan e := standstill_of_resolve hvalid hnew hend
  -- each kind of standstill is a fault of its own
  cases hstandstill with
  | table declared bare named undeclared => exact .tableMissing declared bare named undeclared
  | storage _ declared _ reads unknown =>
    have hnot : ¬plan.nodeKind? _ ≠ none := not_not.mpr unknown
    rw [h.nodeKind?_ne_none_iff] at hnot
    push Not at hnot
    exact .storageUnknown declared reads hnot.1 hnot.2
  | stuck _ _ _ _ diagnosed =>
    cases diagnosed with
    | circular => exact .circular
    | astray => exact .astray

/-- A recorder is refused for what it watches: a missing node or parameter, or a volume of something
else than a storage node. -/
theorem fault_of_recorder (h : Founded model plan) (hsupplied : Supplied model plan)
    (hnew : plan.recorders = [])
    (hrefused : plan.Refuses (model.recorders.entities.map model.recorderRequest) e) :
    model.Fault e := by
  obtain ⟨earlier, recorder, later, entity, source, hsplit, refused, rfl⟩ :=
    hrefused.exists_of_map
  have hrecorder : recorder ∈ model.recorders.entities := by simp [hsplit]
  obtain ⟨hfounded, hstill⟩ := founded_and_supplied_addAll h hsupplied
    (List.forall_mem_map.mpr fun (other : Recorder) (_ : other ∈ earlier) =>
      (rfl : (model.recorderRequest other).node? = none))
    (List.forall_mem_map.mpr fun _ _ => rfl)
  -- recorders have distinct names, so the name cannot be at fault
  have hfresh : recorder.name ∉
      (plan.addAll (earlier.map model.recorderRequest)).recorders.map (·.1) := by
    have hnodup : (model.recorders.entities.map Recorder.name).Nodup := model.recorders.nodup
    rw [hsplit, List.map_append, List.map_cons, List.nodup_append] at hnodup
    rw [map_fst_recorders_addAll hnew]
    intro hname
    exact hnodup.2.2 recorder.name hname recorder.name List.mem_cons_self rfl
  rcases Plan.of_check_createRecorder_eq_error hfresh refused with
    ⟨connector, hmem, hwrong⟩ | ⟨missing, hread, hmissing, rfl⟩
  · obtain ⟨name, hname, hconnector⟩ := List.mem_flatMap.mp hmem
    rcases hwrong with ⟨hunknown, rfl⟩ | ⟨kind, hkind, htype, hother, rfl⟩
    · obtain ⟨rfl, hundeclared, hnot⟩ := hfounded.of_connector_unknown hconnector hunknown
      exact .watchedUnknown hrecorder (Recorder.watches_iff.mpr hname) hundeclared hnot
    · -- only recorders of volume ask for the kind of a node
      cases recorder with
      | storageVolume recorder =>
        rw [List.mem_singleton.mp hname, connectors_eq_standIns] at hconnector
        refine .notStorage hrecorder hconnector ?_ hother
        exact List.mem_append.mpr (hfounded.nodeKind?_eq_some_iff.mp hkind)
      | nodeFlow recorder =>
        change "NodeFlow" = "StorageVolume" at htype
        exact absurd htype (by decide)
      | parameter recorder => cases hname
  · rw [hstill, Bool.not_eq_true] at hmissing
    cases recorder with
    | parameter recorder =>
      rw [List.mem_singleton.mp hread] at hmissing ⊢
      exact .watchedMissing hrecorder hmissing
    | _ => cases hread

/-- A cost or a bound is refused for the parameter that it names, and for nothing else: on loaded
models it fits the engine nodes that it is set on. -/
theorem fault_of_limit (h : Founded model plan) (hsupplied : Supplied model plan)
    (hrefused : plan.Refuses (model.nodes.entities.flatMap constraintRequests) e) :
    model.Fault e := by
  obtain ⟨request, hmem, entity, source, refused, rfl⟩ :=
    hrefused.exists_of_silent silent_of_mem_limitRequests
  obtain ⟨node, hnode, hrequest⟩ := List.mem_flatMap.mp hmem
  rw [phase_of_mem_limitRequests request hmem]
  obtain ⟨⟨target, constraint⟩, hentry, rfl⟩ := List.mem_map.mp hrequest
  obtain ⟨htarget, hconstraint⟩ := Node.mem_of_mem_engineConstraints hentry
  obtain ⟨name, hvalue, hmissing, rfl⟩ := Constraint.of_check_request_eq_error
    (h.nodeKind?_of_mem_connectors hnode htarget)
    (node.fits_of_mem_constraints constraint hconstraint) refused
  rw [hsupplied, Bool.not_eq_true] at hmissing
  have hreferenced : name ∈ node.parameterReferences :=
    Node.mem_parameterReferences.mpr ⟨constraint, hconstraint, hvalue⟩
  exact .limitMissing hnode (Node.mem_parameterReferences_iff_holds.mp hreferenced) hmissing

/-- A phase that breaks down does so with an error that tells what is wrong with the model. -/
theorem Breaks.fault (hvalid : model.Valid) {phase : BuildPhase} (h : model.Breaks phase e) :
    model.Fault e := by
  cases h with
  | @nodes _ solvers lacking refused =>
    have hsingles : ((Plan.new solvers).addAll
        (model.nodes.entities.flatMap Node.requests)).nodes = model.network := by
      rw [Plan.nodes_addAll, filterMap_node?_singleRequests]
      rfl
    rw [nodeRequests_eq] at refused
    -- single nodes and groups are declared in two passes, and fail for different reasons
    rcases Plan.refuses_append_iff.mp refused with hsingle | ⟨-, hgroup⟩
    · exact fault_of_single solvers hsingle
    · exact fault_of_group hvalid hsingles hgroup
  | edges _ _ founded refused => exact fault_of_edge founded refused
  | parameters _ _ _ founded new failed => exact fault_of_resolve hvalid founded new failed
  | recorders _ _ _ _ founded supplied new refused =>
    exact fault_of_recorder founded supplied new refused
  | constraints _ _ _ _ _ founded supplied refused => exact fault_of_limit founded supplied refused

/-- The build of a loaded model on a new plan ends with no other errors than its faults. -/
theorem fault_of_build_error {strictness : Strictness} {document : Document}
    (hload : load? strictness document = .ok model) {solvers : List String} {final : Plan}
    (hbuild : outcome (model.build Plan.engine) (Plan.new solvers) = (.error e, final)) :
    model.Fault e := by
  have hvalid : model.Valid := valid_of_load? hload
  obtain ⟨phase, hbreaks⟩ := (fails_of_build hbuild).exists_breaks hvalid
  exact hbreaks.fault hvalid

/-- A weir in one band, next to a node that is called like this band. -/
def weir : Document :=
  .mapping [
    ("timestepper", .mapping [("start", .text "2020-01-01"), ("end", .text "2020-01-31"),
      ("timestep", .number (.integer 1))]),
    ("nodes", .sequence [
      .mapping [("type", .text "PiecewiseLink"), ("name", .text "weir"),
        ("steps", .sequence [.mapping []])],
      .mapping [("type", .text "Link"), ("name", .text "weir.step-0")]])]

def weirMessage : String :=
  "Engine rejected weir.step-0 during node creation: node \"weir.step-0\" already exists"

theorem fault_of_build_error_weir :
    ∃ model e final, load? .strict weir = .ok model ∧
      outcome (model.build Plan.engine) (Plan.new []) = (.error e, final) ∧ model.Fault e ∧
      e.message = weirMessage := by
  have hmessage : ((load? .strict weir).toOption.bind fun model =>
      match outcome (model.build Plan.engine) (Plan.new []) with
      | (.ok _, _) => none
      | (.error e, _) => some e.message) = some weirMessage := by decide +kernel
  obtain ⟨model, hload, hend⟩ := bind_toOption_eq_some_iff.mp hmessage
  split at hend
  · cases hend
  · rename_i e final hbuild
    have hfault := fault_of_build_error hload hbuild
    exact ⟨model, e, final, hload, hbuild, hfault, Option.some.inj hend⟩

end Model

end FlowPlan
