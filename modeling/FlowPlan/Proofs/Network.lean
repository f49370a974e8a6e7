import FlowPlan.Proofs.Check
import FlowPlan.Proofs.Collection
import FlowPlan.Proofs.Demand
import FlowPlan.Proofs.Loading
import FlowPlan.Proofs.Lookup
import FlowPlan.Proofs.StepName
import Mathlib.Data.List.Pairwise

namespace FlowPlan

namespace AggregatedNode

def request (group : AggregatedNode) : Request :=
  .addAggregatedNode group.name group.members group.factors

def engineNode (group : AggregatedNode) : String × NodeKind :=
  (group.name, .aggregated)

end AggregatedNode

namespace Node

/-- The names of the engine nodes that stand for a node: its own, or those of its steps where it is
a piecewise link. A group has none. -/
def engineNames : Node → List String
  | input node | link node | output node => [node.name]
  | storage node => [node.name]
  | catchment node => [node.name]
  | aggregated _ => []
  | piecewiseLink node => (List.range node.steps.length).map node.stepName

def group? : Node → Option AggregatedNode
  | aggregated group => some group
  | _ => none

def IsPiecewise (node : Node) : Prop :=
  ∃ link, node = .piecewiseLink link

instance (node : Node) : Decidable node.IsPiecewise :=
  match node with
  | piecewiseLink steps => isTrue ⟨steps, rfl⟩
  | input _ | link _ | output _ | storage _ | catchment _ | aggregated _ =>
    isFalse nofun

theorem kind_ne_of_mem_engineNodes {node : Node} {entry : String × NodeKind}
    (h : entry ∈ node.engineNodes) : entry.2 ≠ .aggregated := by
  cases node with
  | aggregated group => cases h
  | piecewiseLink link =>
    obtain ⟨name, -, rfl⟩ := List.mem_map.mp h
    simp
  | _ =>
    rw [List.mem_singleton.mp h]
    simp [kind]

theorem engineNames_piecewiseLink (link : PiecewiseLink) :
    (Node.piecewiseLink link).engineNames = link.stepNames := rfl

/-- The engine nodes that a node is built as have the names that it has in the engine. -/
theorem map_fst_engineNodes (node : Node) : node.engineNodes.map Prod.fst = node.engineNames := by
  cases node with
  | piecewiseLink link =>
    unfold engineNodes
    rw [List.map_map, engineNames_piecewiseLink]
    exact List.map_id _
  | _ => rfl

/-- A node has no engine name twice: the steps of a link are numbered. -/
theorem nodup_engineNames (node : Node) : node.engineNames.Nodup := by
  cases node with
  | aggregated group => exact List.nodup_nil
  | piecewiseLink link =>
    rw [engineNames_piecewiseLink]
    exact link.nodup_stepNames
  | _ => exact List.nodup_singleton _

/-- All nodes but piecewise links only have their own name in the engine. -/
theorem eq_name_of_mem_engineNames {node : Node} (hnode : ¬node.IsPiecewise) {name : String}
    (h : name ∈ node.engineNames) : name = node.name := by
  cases node with
  | aggregated group => cases h
  | piecewiseLink link => exact absurd ⟨link, rfl⟩ hnode
  | _ => exact List.mem_singleton.mp h

theorem name_mem_engineNames {node : Node} (hnode : ¬node.IsPiecewise)
    (hkind : node.kind ≠ .aggregated) : node.name ∈ node.engineNames := by
  cases node with
  | aggregated group => exact absurd rfl hkind
  | piecewiseLink link => exact absurd ⟨link, rfl⟩ hnode
  | _ => exact List.mem_singleton.mpr rfl

/-- Edges are attached to all engine nodes of a node that is no group. -/
theorem connectors_eq_engineNames {node : Node} (hkind : node.kind ≠ .aggregated) :
    node.connectors = node.engineNames := by
  cases node with
  | aggregated group => exact absurd rfl hkind
  | piecewiseLink link => exact (engineNames_piecewiseLink link).symm
  | _ => rfl

theorem groupRequest?_eq (node : Node) :
    node.groupRequest? = node.group?.map AggregatedNode.request := by
  cases node with
  | _ => rfl

theorem filterMap_node?_requests (node : Node) :
    node.requests.filterMap Request.node? = node.engineNodes := by
  unfold requests
  rw [List.filterMap_map]
  exact List.filterMap_some

theorem map_declared_requests (node : Node) :
    node.requests.map Request.declared = node.engineNames := by
  rw [← map_fst_engineNodes]
  unfold requests
  rw [List.map_map]
  rfl

/-- The name of a step tells the link and the step, whatever the names of links are. So the engine
nodes that are requested for the piecewise links of a network all have names of their own. -/
theorem step_names_apart :
    (∀ (link other : PiecewiseLink) (i j : ℕ),
      link.stepName i = other.stepName j ↔ link.name = other.name ∧ i = j) ∧
    ∀ nodes : Collection Node,
      (((nodes.entities.filter (·.IsPiecewise)).flatMap requests).map Request.declared).Nodup := by
  constructor
  · intro link other i j
    constructor
    · exact PiecewiseLink.stepName_inj
    · rintro ⟨hname, rfl⟩
      unfold PiecewiseLink.stepName
      rw [hname]
  · intro nodes
    have hnames : ((nodes.entities.filter (·.IsPiecewise)).map Node.name).Nodup :=
      (List.filter_sublist.map Node.name).nodup nodes.nodup
    rw [List.map_flatMap, List.nodup_flatMap]
    simp only [map_declared_requests]
    refine ⟨fun node _ => node.nodup_engineNames, ?_⟩
    refine (List.pairwise_map.mp hnames).imp_of_mem fun {a b} ha hb hne name hna hnb => ?_
    -- a name that both have is that of a step of two links
    obtain ⟨link, rfl⟩ := of_decide_eq_true (List.mem_filter.mp ha).2
    obtain ⟨other, rfl⟩ := of_decide_eq_true (List.mem_filter.mp hb).2
    simp only [engineNames_piecewiseLink] at hna hnb
    exact hne (PiecewiseLink.name_eq_of_mem_stepNames hna hnb)

end Node

namespace Model

variable (model : Model)

def network : List (String × NodeKind) :=
  model.nodes.entities.flatMap Node.engineNodes

/-- The names of the engine nodes of all nodes that are no groups. -/
def engineNames : List String :=
  model.nodes.entities.flatMap Node.engineNames

def groups : List AggregatedNode :=
  model.nodes.entities.filterMap Node.group?

def groupNodes : List (String × NodeKind) :=
  model.groups.map AggregatedNode.engineNode

variable {model}

theorem mem_engineNames {name : String} :
    name ∈ model.engineNames ↔ ∃ node ∈ model.nodes.entities, name ∈ node.engineNames :=
  List.mem_flatMap

theorem kind_ne_of_mem_network {entry : String × NodeKind} (h : entry ∈ model.network) :
    entry.2 ≠ .aggregated := by
  obtain ⟨node, -, hentry⟩ := List.mem_flatMap.mp h
  exact Node.kind_ne_of_mem_engineNodes hentry

/-- The groups of a model are among its nodes. -/
theorem mem_groups {group : AggregatedNode} :
    group ∈ model.groups ↔ .aggregated group ∈ model.nodes.entities := by
  unfold groups
  rw [List.mem_filterMap]
  constructor
  · rintro ⟨node, hnode, hgroup⟩
    cases node with
    | aggregated other =>
      cases hgroup
      exact hnode
    | _ => cases hgroup
  · exact fun hgroup => ⟨_, hgroup, rfl⟩

theorem mem_groupNodes {entry : String × NodeKind} :
    entry ∈ model.groupNodes ↔
      ∃ group, .aggregated group ∈ model.nodes.entities ∧ group.engineNode = entry := by
  unfold groupNodes
  simp only [List.mem_map, mem_groups]

/-- Whether the names of a model's engine nodes are distinct: those of steps are made up, and may
be the names of other nodes. -/
def StepsDistinct (model : Model) : Prop :=
  ∀ link, .piecewiseLink link ∈ model.nodes.entities →
    ∀ node ∈ model.nodes.entities, ¬node.IsPiecewise → node.name ∉ link.stepNames

/-- An engine node that stands for two nodes is a step of one of them, called like the other. -/
theorem exists_step_of_ne {a b : Node} (ha : a ∈ model.nodes.entities)
    (hb : b ∈ model.nodes.entities) (hne : a ≠ b) {name : String} (hna : name ∈ a.engineNames)
    (hnb : name ∈ b.engineNames) :
    ∃ link, .piecewiseLink link ∈ model.nodes.entities ∧
      ∃ node ∈ model.nodes.entities, ¬node.IsPiecewise ∧ node.name = name ∧
        name ∈ link.stepNames := by
  by_cases hpa : a.IsPiecewise
  · obtain ⟨link, rfl⟩ := hpa
    rw [Node.engineNames_piecewiseLink] at hna
    by_cases hpb : b.IsPiecewise
    · obtain ⟨other, rfl⟩ := hpb
      rw [Node.engineNames_piecewiseLink] at hnb
      -- two links with a step of one name have one name themselves
      obtain ⟨i, -, rfl⟩ := PiecewiseLink.mem_stepNames.mp hna
      obtain ⟨j, -, hname⟩ := PiecewiseLink.mem_stepNames.mp hnb
      have hsame : Node.piecewiseLink link = .piecewiseLink other :=
        Collection.eq_of_name_eq ha hb (PiecewiseLink.stepName_inj hname).1.symm
      exact absurd hsame hne
    · exact ⟨link, ha, b, hb, hpb, (Node.eq_name_of_mem_engineNames hpb hnb).symm, hna⟩
  · have hname := Node.eq_name_of_mem_engineNames hpa hna
    by_cases hpb : b.IsPiecewise
    · obtain ⟨other, rfl⟩ := hpb
      rw [Node.engineNames_piecewiseLink] at hnb
      exact ⟨other, hb, a, ha, hpa, hname.symm, hnb⟩
    · have hother := Node.eq_name_of_mem_engineNames hpb hnb
      exact absurd (Collection.eq_of_name_eq ha hb (hname.symm.trans hother)) hne

/-- An engine node stands for one node only. -/
theorem StepsDistinct.eq_of_mem_engineNames (hdistinct : model.StepsDistinct) {a b : Node}
    (ha : a ∈ model.nodes.entities) (hb : b ∈ model.nodes.entities) {name : String}
    (hna : name ∈ a.engineNames) (hnb : name ∈ b.engineNames) : a = b := by
  by_contra hne
  obtain ⟨link, hlink, node, hnode, hsingle, rfl, hstep⟩ := exists_step_of_ne ha hb hne hna hnb
  exact hdistinct link hlink node hnode hsingle hstep

/-- A group is called like no engine node of other nodes. -/
theorem StepsDistinct.group_not_mem (hdistinct : model.StepsDistinct) {group : AggregatedNode}
    (hgroup : .aggregated group ∈ model.nodes.entities) : group.name ∉ model.engineNames := by
  intro hname
  obtain ⟨node, hnode, hname⟩ := mem_engineNames.mp hname
  -- a step cannot be called like a group, and any other engine node is called like its node
  by_cases hpiecewise : node.IsPiecewise
  · obtain ⟨link, rfl⟩ := hpiecewise
    rw [Node.engineNames_piecewiseLink] at hname
    refine hdistinct link hnode _ hgroup ?_ hname
    rintro ⟨other, hother⟩
    cases hother
  · have hsame : node = .aggregated group := Collection.eq_of_name_eq hnode hgroup
      (Node.eq_name_of_mem_engineNames hpiecewise hname).symm
    rw [hsame] at hname
    cases hname

/-- The single engine nodes have the names that the nodes have in the engine. -/
theorem map_fst_network (model : Model) : model.network.map Prod.fst = model.engineNames := by
  unfold network engineNames
  rw [List.map_flatMap]
  simp only [Node.map_fst_engineNodes]

theorem map_fst_groupNodes :
    model.groupNodes.map Prod.fst = model.groups.map AggregatedNode.name := by
  unfold groupNodes
  rw [List.map_map]
  rfl

theorem sublist_groupNames (nodes : List Node) :
    ((nodes.filterMap Node.group?).map AggregatedNode.name).Sublist (nodes.map Node.name) := by
  induction nodes with
  | nil => exact List.Sublist.refl _
  | cons node rest ih =>
    rw [List.map_cons]
    cases node with
    | aggregated group => exact ih.cons_cons _
    | _ => exact ih.cons _

/-- The names of all engine nodes, groups included, are distinct when those of steps are. -/
theorem nodup_names_iff :
    ((model.network ++ model.groupNodes).map Prod.fst).Nodup ↔ model.StepsDistinct := by
  have hentities : model.nodes.entities.Nodup := List.Nodup.of_map _ model.nodes.nodup
  rw [List.map_append, List.nodup_append, map_fst_network]
  unfold engineNames
  rw [List.nodup_flatMap]
  -- names can only clash between a step and a node: nodes have distinct names, and so do steps
  constructor
  · rintro ⟨⟨-, hpairwise⟩, -, hgroups⟩ link hlink node hnode hsingle hname
    have hstep : node.name ∈ (Node.piecewiseLink link).engineNames := by
      rwa [Node.engineNames_piecewiseLink]
    by_cases hkind : node.kind = .aggregated
    · cases node with
      | aggregated group =>
        refine hgroups group.name (mem_engineNames.mpr ⟨_, hlink, hstep⟩) group.name ?_ rfl
        exact List.mem_map_of_mem (mem_groupNodes.mpr ⟨group, hnode, rfl⟩)
      | _ => cases hkind
    · have hne : node ≠ .piecewiseLink link := fun hsame => hsingle ⟨link, hsame⟩
      have : Std.Symm (Function.onFun List.Disjoint Node.engineNames) :=
        ⟨fun _ _ h _ hb ha => h ha hb⟩
      exact hpairwise.forall hnode hlink hne (Node.name_mem_engineNames hsingle hkind) hstep
  · intro hdistinct
    refine ⟨⟨fun node _ => node.nodup_engineNames, ?_⟩, ?_, ?_⟩
    · refine hentities.pairwise_of_forall_ne fun a ha b hb hne name hna hnb => ?_
      exact hne (hdistinct.eq_of_mem_engineNames ha hb hna hnb)
    · rw [map_fst_groupNodes]
      exact (sublist_groupNames model.nodes.entities).nodup model.nodes.nodup
    · rintro name hname _ hgroup rfl
      obtain ⟨entry, hentry, hsame⟩ := List.mem_map.mp hgroup
      obtain ⟨group, hgroup, rfl⟩ := mem_groupNodes.mp hentry
      change name ∈ model.engineNames at hname
      rw [← hsame] at hname
      exact hdistinct.group_not_mem hgroup hname

/-- A name that is looked up among single nodes first and groups then is that of a single node or
of none but groups. -/
theorem exists_lookup_iff {single groups : List (String × NodeKind)}
    (hsingle : ∀ entry ∈ single, entry.2 ≠ .aggregated)
    (hgroups : ∀ entry ∈ groups, entry.2 = .aggregated) {name : String} :
    (∃ kind, (single ++ groups).lookup name = some kind ∧ kind ≠ .aggregated) ↔
      name ∈ single.map Prod.fst := by
  -- single nodes come first in the lookup, and groups are all that it finds after them
  rw [List.lookup_append]
  constructor
  · rintro ⟨kind, hkind, hne⟩
    cases hfound : single.lookup name with
    | none =>
      rw [hfound, Option.none_or] at hkind
      exact absurd (hgroups _ (mem_of_lookup_eq_some hkind)) hne
    | some found => exact List.mem_map.mpr ⟨_, mem_of_lookup_eq_some hfound, rfl⟩
  · intro hname
    cases hfound : single.lookup name with
    | none => exact absurd hname (lookup_eq_none_iff_not_mem.mp hfound)
    | some found =>
      exact ⟨found, by rw [Option.some_or], hsingle _ (mem_of_lookup_eq_some hfound)⟩

theorem map_fst_filterMap_node? {requests : List Request}
    (h : ∀ request ∈ requests, ∃ kind, request.node? = some (request.declared, kind)) :
    (requests.filterMap Request.node?).map Prod.fst = requests.map Request.declared := by
  induction requests with
  | nil => rfl
  | cons request rest ih =>
    obtain ⟨hrequest, hrest⟩ := List.forall_mem_cons.mp h
    obtain ⟨kind, hkind⟩ := hrequest
    rw [List.filterMap_cons_some hkind, List.map_cons, List.map_cons, ih hrest]

variable (model) in
/-- The nodes are asked for in two batches: single ones, and then groups. -/
theorem nodeRequests_eq :
    model.nodeRequests = model.nodes.entities.flatMap Node.requests ++
      model.groups.map AggregatedNode.request := by
  unfold nodeRequests groups
  simp only [Node.groupRequest?_eq]
  rw [← List.filterMap_eq_flatMap_toList, List.map_filterMap]

theorem exists_of_mem_singleRequests {request : Request}
    (h : request ∈ model.nodes.entities.flatMap Node.requests) :
    ∃ name kind volume, request = .addNode name kind volume ∧ kind ≠ .aggregated := by
  obtain ⟨node, -, hrequest⟩ := List.mem_flatMap.mp h
  obtain ⟨⟨name, kind⟩, hentry, rfl⟩ := List.mem_map.mp hrequest
  exact ⟨name, kind, node.initialVolume, rfl, Node.kind_ne_of_mem_engineNodes hentry⟩

theorem filterMap_node?_singleRequests :
    (model.nodes.entities.flatMap Node.requests).filterMap Request.node? = model.network := by
  unfold network
  rw [List.filterMap_flatMap]
  simp only [Node.filterMap_node?_requests]

theorem filterMap_node?_groupRequests (groups : List AggregatedNode) :
    (groups.map AggregatedNode.request).filterMap Request.node? =
      groups.map AggregatedNode.engineNode := by
  rw [List.filterMap_map, ← List.filterMap_eq_map]
  rfl

/-- A new plan admits the single nodes when their names differ. -/
theorem admits_singleRequests_iff (solvers : List String) :
    (Plan.new solvers).Admits (model.nodes.entities.flatMap Node.requests) ↔
      model.engineNames.Nodup := by
  have hdeclare : ∀ request ∈ model.nodes.entities.flatMap Node.requests,
      ∃ kind, request.node? = some (request.declared, kind) := by
    intro request hrequest
    obtain ⟨name, kind, volume, rfl, -⟩ := exists_of_mem_singleRequests hrequest
    exact ⟨kind, rfl⟩
  -- a single node only has to be new among those before it
  have hcheck : ∀ before, before ⊆ model.nodes.entities.flatMap Node.requests →
      ∀ request ∈ model.nodes.entities.flatMap Node.requests,
        (((Plan.new solvers).addAll (before.map id)).check (id request) = .ok () ↔
          request.declared ∉ [] ++ before.map Request.declared ∧ True) := by
    intro before hbefore request hrequest
    obtain ⟨name, kind, volume, rfl, hkind⟩ := exists_of_mem_singleRequests hrequest
    rw [List.map_id, id, Plan.check_addNode_iff, Plan.nodeKind?_eq_none_iff, Plan.nodes_addAll,
      List.map_append, map_fst_filterMap_node? fun r hr => hdeclare r (hbefore hr)]
    exact ⟨fun h => ⟨h.2, trivial⟩, fun h => ⟨hkind, h.1⟩⟩
  have hadmits := Plan.admits_map_iff hcheck
  rw [List.map_id, ← map_fst_filterMap_node? hdeclare, filterMap_node?_singleRequests,
    map_fst_network] at hadmits
  rw [hadmits]
  exact and_iff_left fun _ _ => ⟨List.not_mem_nil, trivial⟩

def MembersSingle (model : Model) : Prop :=
  ∀ group, .aggregated group ∈ model.nodes.entities →
    ∀ member ∈ group.members, member ∈ model.engineNames

/-- A plan with the single nodes admits the groups when their names are new and their members are
single nodes. The number of factors was checked when the model was loaded. -/
theorem admits_groupRequests_iff (hvalid : model.Valid) {plan : Plan}
    (hplan : plan.nodes = model.network) :
    plan.Admits (model.groups.map AggregatedNode.request) ↔
      (model.groups.map AggregatedNode.name).Nodup ∧
      ∀ group ∈ model.groups, group.name ∉ model.engineNames ∧
        ∀ member ∈ group.members, member ∈ model.engineNames := by
  refine Plan.admits_map_iff fun before _ group hgroup => ?_
  have hnodes : (plan.addAll (before.map AggregatedNode.request)).nodes =
      model.network ++ before.map AggregatedNode.engineNode := by
    rw [Plan.nodes_addAll, hplan, filterMap_node?_groupRequests]
  have hnames : (before.map AggregatedNode.engineNode).map Prod.fst =
      before.map AggregatedNode.name := by
    rw [List.map_map]
    rfl
  have hkinds : ∀ entry ∈ before.map AggregatedNode.engineNode, entry.2 = .aggregated :=
    List.forall_mem_map.mpr fun _ _ => rfl
  -- a member is never a group, so those created before this one do not matter
  have hmember (member : String) :
      (∃ kind, (plan.addAll (before.map AggregatedNode.request)).nodeKind? member = some kind ∧
        kind ≠ .aggregated) ↔ member ∈ model.engineNames := by
    unfold Plan.nodeKind?
    rw [hnodes, ← map_fst_network]
    exact exists_lookup_iff (fun _ => kind_ne_of_mem_network) hkinds
  have hfactors := hvalid.length_factors (mem_groups.mp hgroup)
  unfold AggregatedNode.request at hmember hnodes ⊢
  rw [Plan.check_addAggregatedNode_iff, Plan.nodeKind?_eq_none_iff, hnodes, List.map_append,
    map_fst_network, hnames]
  simp only [hmember]
  exact and_congr_right fun _ => and_iff_left hfactors

/-- A new plan can create all nodes of a valid model when the names are distinct and groups are
made of single nodes. -/
theorem admits_nodeRequests_iff (hvalid : model.Valid) (solvers : List String) :
    (Plan.new solvers).Admits model.nodeRequests ↔
      model.StepsDistinct ∧ model.MembersSingle := by
  -- the groups come to a plan that has all single nodes
  have hnodes : ((Plan.new solvers).addAll (model.nodes.entities.flatMap Node.requests)).nodes =
      model.network := by
    rw [Plan.nodes_addAll, filterMap_node?_singleRequests]
    rfl
  rw [nodeRequests_eq, Plan.admits_append, admits_singleRequests_iff,
    admits_groupRequests_iff hvalid hnodes, ← nodup_names_iff, List.map_append, List.nodup_append,
    map_fst_network, map_fst_groupNodes]
  constructor
  · rintro ⟨hsingle, hgroups, hall⟩
    refine ⟨⟨hsingle, hgroups, fun name hname other hother => ?_⟩, fun group hgroup => ?_⟩
    · rintro rfl
      obtain ⟨group, hgroup, rfl⟩ := List.mem_map.mp hother
      exact (hall group hgroup).1 hname
    · exact (hall group (mem_groups.mpr hgroup)).2
  · rintro ⟨⟨hsingle, hgroups, hapart⟩, hmembers⟩
    refine ⟨hsingle, hgroups, fun group hgroup => ⟨fun hname => ?_, ?_⟩⟩
    · exact hapart group.name hname group.name (List.mem_map_of_mem hgroup) rfl
    · exact hmembers group (mem_groups.mp hgroup)

end Model

end FlowPlan
