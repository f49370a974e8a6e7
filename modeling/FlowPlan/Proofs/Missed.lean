import FlowPlan.Proofs.Alike
import FlowPlan.Proofs.Fault

/-! Of which declared nodes a build says that they do not exist. Edges and recorders are put in
terms of engine nodes, but groups and parameters name nodes as they are written: a piecewise link is
no engine node of its own, and a group is none before it is created. -/

namespace FlowPlan

namespace Model

open Build

variable {model : Model} {phase : BuildPhase} {entity name : String}

/-- Where a plan looks in vain for a node that a model declares. -/
inductive Missed (model : Model) : BuildPhase → Node → Prop
  | member {group : AggregatedNode} {link : PiecewiseLink} (group_mem : group ∈ model.groups)
      (link_mem : .piecewiseLink link ∈ model.nodes.entities)
      (member_mem : link.name ∈ group.members) (unknown : link.name ∉ model.engineNames) :
      Missed model .nodes (.piecewiseLink link)
  /-- A group is its own member, or that of a group which is declared before it. -/
  | later {before after : List AggregatedNode} {group inner : AggregatedNode}
      (split : model.groups = before ++ group :: after) (inner_mem : inner ∈ group :: after)
      (member_mem : inner.name ∈ group.members) : Missed model .nodes (.aggregated inner)
  | storage {p : Parameter} {link : PiecewiseLink} (parameter_mem : p ∈ model.parameters.entities)
      (link_mem : .piecewiseLink link ∈ model.nodes.entities)
      (read : p.Stores link.name) (unknown : link.name ∉ model.engineNames) :
      Missed model .parameters (.piecewiseLink link)

/-- A node whose name is not that of an engine node is a piecewise link or a group. -/
theorem eq_piecewise_or_group {node : Node} (hnode : node ∈ model.nodes.entities)
    (hunknown : node.name ∉ model.engineNames) :
    (∃ link, node = .piecewiseLink link) ∨ ∃ group, node = .aggregated group := by
  by_contra hother
  push Not at hother
  have hsingle : ¬node.IsPiecewise := fun ⟨link, hlink⟩ => hother.1 link hlink
  have hkind : node.kind ≠ .aggregated := by
    intro hkind
    cases node with
    | aggregated group => exact hother.2 group rfl
    | _ => cases hkind
  exact hunknown (mem_engineNames.mpr ⟨node, hnode, Node.name_mem_engineNames hsingle hkind⟩)

/-- A model with a node that is missed cannot be built, whatever else it declares. -/
theorem Missed.not_buildable {node : Node} (h : model.Missed phase node) : ¬model.Buildable := by
  intro hbuildable
  -- whichever reference is missed, the criterion demands it
  cases h with
  | member group_mem _ member_mem unknown =>
    exact unknown (hbuildable.members_single _ (mem_groups.mp group_mem) _ member_mem)
  | later split inner_mem member_mem =>
    have hgroup := mem_groups.mp (split ▸ List.mem_append_right _ List.mem_cons_self)
    have hinner := mem_groups.mp (split ▸ List.mem_append_right _ inner_mem)
    have hmember := hbuildable.members_single _ hgroup _ member_mem
    exact hbuildable.steps_distinct.group_not_mem hinner hmember
  | storage parameter_mem link_mem read unknown =>
    obtain ⟨group, hgroup, hname⟩ :=
      (hbuildable.nodes_known _ parameter_mem _ read).resolve_left unknown
    have hsame := Collection.eq_of_name_eq hgroup link_mem hname
    cases hsame

/-- Nodes that are no groups refer to no others. -/
theorem not_unknown_of_single {plan : Plan} :
    ¬plan.Refuses (model.nodes.entities.flatMap Node.requests)
      (.engine phase entity (.unknownNode name)) := by
  intro hrefused
  cases hrefused with
  | @intro before after request _ _ split _ refused =>
    have hmem : request ∈ model.nodes.entities.flatMap Node.requests := by simp [split]
    obtain ⟨other, kind, volume, rfl, hkind⟩ := exists_of_mem_singleRequests hmem
    obtain ⟨-, hsource⟩ := Plan.of_check_addNode_eq_error hkind refused
    cases hsource

/-- The member that a group lacks is neither an engine node nor a group created before it. -/
theorem exists_lacking_group (hvalid : model.Valid) {plan : Plan}
    (hplan : plan.nodes = model.network)
    (h : plan.Refuses (model.groups.map AggregatedNode.request)
      (.engine phase entity (.unknownNode name))) :
    ∃ before group after, model.groups = before ++ group :: after ∧ name ∈ group.members ∧
      name ∉ model.engineNames ∧ name ∉ before.map AggregatedNode.name := by
  obtain ⟨before, group, after, other, source, hgroups, refused, herror⟩ := h.exists_of_map
  cases herror
  have hgroup : .aggregated group ∈ model.nodes.entities := mem_groups.mp (by simp [hgroups])
  refine ⟨before, group, after, hgroups, ?_⟩
  rcases Plan.of_check_addAggregatedNode_eq_error (hvalid.length_factors hgroup) refused with
    ⟨-, hsource⟩ | ⟨member, hmember, ⟨hnone, hsource⟩ | ⟨-, hsource⟩⟩
  · cases hsource
  · cases hsource
    -- the plan has all engine nodes and the groups before, so the member is none of them
    have hnames : (before.map AggregatedNode.engineNode).map Prod.fst =
        before.map AggregatedNode.name := by
      rw [List.map_map]
      rfl
    rw [Plan.nodeKind?_eq_none_iff, Plan.nodes_addAll, hplan, filterMap_node?_groupRequests,
      List.map_append, map_fst_network, hnames, List.mem_append, not_or] at hnone
    exact ⟨hmember, hnone⟩
  · cases hsource

/-- When a declared node is missed among the nodes, it is the member of a group: a piecewise link,
or a group that is created later. -/
theorem missed_of_nodes (hvalid : model.Valid) {solvers : List String}
    (h : (Plan.new solvers).Refuses model.nodeRequests (.engine .nodes entity (.unknownNode name)))
    {node : Node} (hnode : node ∈ model.nodes.entities) (hname : node.name = name) :
    model.Missed .nodes node := by
  subst hname
  rw [nodeRequests_eq] at h
  -- a single node is never refused for an unknown one, so a group is
  rcases Plan.refuses_append_iff.mp h with hsingle | ⟨-, hgroups⟩
  · exact absurd hsingle not_unknown_of_single
  have hplan : ((Plan.new solvers).addAll (model.nodes.entities.flatMap Node.requests)).nodes =
      model.network := by
    rw [Plan.nodes_addAll, filterMap_node?_singleRequests]
    rfl
  obtain ⟨before, group, after, hsplit, hmember, hunknown, hearlier⟩ :=
    exists_lacking_group hvalid hplan hgroups
  rcases eq_piecewise_or_group hnode hunknown with ⟨link, rfl⟩ | ⟨inner, rfl⟩
  · exact .member (by simp [hsplit]) hnode hmember hunknown
  · -- a group of the name of the member is not among those before, so it comes later
    have hinner : inner ∈ before ++ group :: after := hsplit ▸ mem_groups.mpr hnode
    have hlater : inner ∈ group :: after :=
      (List.mem_append.mp hinner).resolve_left fun hbefore =>
        hearlier (List.mem_map_of_mem hbefore)
    exact .later hsplit hlater hmember

/-- An engine's error is one of the phase that breaks down. -/
theorem Breaks.phase_eq (hvalid : model.Valid) {other : BuildPhase} {source : EngineError}
    (h : model.Breaks phase (.engine other entity source)) : other = phase := by
  -- only resolution has errors that name no phase
  by_cases hparameters : phase = .parameters
  · subst hparameters
    cases h with
    | parameters _ _ _ _ new failed =>
      have hstandstill := standstill_of_resolve hvalid new failed
      generalize herror : ModelError.engine other entity source = e at hstandstill
      cases hstandstill with
      | table => cases herror
      | storage =>
        cases herror
        rfl
      | stuck _ _ _ _ diagnosed =>
        cases diagnosed with
        | circular => cases herror
        | astray => cases herror
  · obtain ⟨_, _, herror⟩ := h.exists_engine_error hparameters
    cases herror
    rfl

/-- Where a build says of a declared node that it does not exist, a group has a piecewise link or a
later group as a member, or a parameter reads a piecewise link. -/
theorem missed_of_unknown_node {strictness : Strictness} {document : Document}
    (hload : load? strictness document = .ok model) {solvers : List String} {final : Plan}
    (hbuild : outcome (model.build Plan.engine) (Plan.new solvers) =
      (.error (.engine phase entity (.unknownNode name)), final)) :
    ∀ node ∈ model.nodes.entities, node.name = name → model.Missed phase node := by
  intro node hnode hname
  have hvalid : model.Valid := valid_of_load? hload
  have hdeclared : model.nodes.contains name = true :=
    Collection.contains_iff.mpr ⟨node, hnode, hname⟩
  obtain ⟨broken, hbreaks⟩ := (fails_of_build hbuild).exists_breaks hvalid
  have hphase : phase = broken := hbreaks.phase_eq hvalid
  subst hphase
  by_cases hnodes : phase = .nodes
  · subst hnodes
    cases hbreaks with
    | nodes _ refused => exact missed_of_nodes hvalid refused hnode hname
  · have hfault : model.Fault (.engine phase entity (.unknownNode name)) := hbreaks.fault hvalid
    cases hfault with
    | memberUnknown => exact absurd rfl hnodes
    -- edges and recorders stand for the engine nodes of what they name
    | endUnknown _ _ undeclared =>
      rw [hdeclared] at undeclared
      cases undeclared
    | watchedUnknown _ _ undeclared =>
      rw [hdeclared] at undeclared
      cases undeclared
    | storageUnknown parameter_mem read unknown single =>
      subst hname
      rcases eq_piecewise_or_group hnode unknown with ⟨link, rfl⟩ | ⟨group, rfl⟩
      · exact .storage parameter_mem hnode read unknown
      · exact absurd rfl (single group hnode)

/-- A licence for what flows through a river that is modelled in bands. -/
def licence : Document :=
  .mapping [
    ("timestepper", .mapping [("start", .text "2020-01-01"), ("end", .text "2020-01-31"),
      ("timestep", .number (.integer 1))]),
    ("nodes", .sequence [
      .mapping [("type", .text "PiecewiseLink"), ("name", .text "river"),
        ("steps", .sequence [.mapping []])],
      .mapping [("type", .text "Aggregated"), ("name", .text "licence"),
        ("nodes", .texts ["river"])]])]

theorem exists_build_licence :
    ∃ model final, load? .strict licence = .ok model ∧
      model.nodes.entities.map Node.name = ["river", "licence"] ∧
      outcome (model.build Plan.engine) (Plan.new []) =
        (.error (.engine .nodes "licence" (.unknownNode "river")), final) := by
  have hbuilt : ((load? .strict licence).toOption.bind fun model =>
      match (outcome (model.build Plan.engine) (Plan.new [])).1 with
      | .error (.engine .nodes entity (.unknownNode name)) =>
        some (model.nodes.entities.map Node.name, entity, name)
      | _ => none) = some (["river", "licence"], "licence", "river") := by decide +kernel
  obtain ⟨model, hload, hend⟩ := bind_toOption_eq_some_iff.mp hbuilt
  split at hend
  · rename_i hresult
    simp only [Option.some.injEq, Prod.mk.injEq] at hend
    obtain ⟨hnames, rfl, rfl⟩ := hend
    exact ⟨model, _, hload, hnames, Prod.ext hresult rfl⟩
  · cases hend

theorem missed_of_unknown_node_licence :
    ∃ model final node, load? .strict licence = .ok model ∧
      outcome (model.build Plan.engine) (Plan.new []) =
        (.error (.engine .nodes "licence" (.unknownNode "river")), final) ∧
      node ∈ model.nodes.entities ∧ node.name = "river" ∧ model.Missed .nodes node := by
  obtain ⟨model, final, hload, hnames, hbuild⟩ := exists_build_licence
  have hriver : "river" ∈ model.nodes.entities.map Node.name := by
    rw [hnames]
    exact List.mem_cons_self
  obtain ⟨node, hnode, hname⟩ := List.mem_map.mp hriver
  have hmissed := missed_of_unknown_node hload hbuild node hnode hname
  exact ⟨model, final, node, hload, hbuild, hnode, hname, hmissed⟩

/-- A build does say of declared nodes that they do not exist. -/
theorem not_only_undeclared_unknown :
    ¬∀ (strictness : Strictness) (document : Document) (model : Model) (solvers : List String)
      (phase : BuildPhase) (entity name : String) (final : Plan),
      load? strictness document = .ok model →
      outcome (model.build Plan.engine) (Plan.new solvers) =
        (.error (.engine phase entity (.unknownNode name)), final) →
      model.nodes.contains name = false := by
  intro hclaim
  obtain ⟨model, final, hload, hnames, hbuild⟩ := exists_build_licence
  have hunknown := hclaim .strict licence model [] .nodes "licence" "river" final hload hbuild
  have hknown : model.nodes.contains "river" = true := by
    change (model.nodes.entities.map Node.name).contains "river" = true
    rw [hnames]
    decide
  rw [hknown] at hunknown
  cases hunknown

end Model

end FlowPlan
