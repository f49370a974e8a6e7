import FlowPlan.Proofs.Build
import FlowPlan.Proofs.Precedence

/-! Which engine nodes are handed to an engine for the nodes that a model refers to, and for which
nodes they have been created. Groups and parameters hand out names as they are written; that of a
piecewise link can only be the name of a step of another one. -/

namespace FlowPlan

/-- The engine nodes that a request hands to an engine. -/
def Request.handed : Request → List String
  | connect source target => [source, target]
  | addAggregatedNode _ members _ => members
  | createParameter _ _ spec => spec.nodeReferences
  | createRecorder _ _ spec => spec.nodeReferences
  | _ => []

/-- Whether a request hands out the names of nodes as they are written. -/
def Request.Verbatim : Request → Prop
  | addAggregatedNode _ _ _ => True
  | createParameter _ _ _ => True
  | _ => False

theorem Recorder.exists_nodeReferences_eq (recorder : Recorder) {name : String}
    (h : name ∈ recorder.nodeReferences) :
    ∃ reference, recorder.nodeReferences = [reference] := by
  cases recorder with
  | parameter recorder => cases h
  | _ => exact ⟨_, rfl⟩

/-- The engine nodes that are created for a node. -/
def Node.created (node : Node) : List String :=
  (node.requests ++ node.groupRequest?.toList).map Request.declared

/-- The names that a node is created under are the ones that stand for it in the network. -/
theorem Node.created_eq_connectors (node : Node) : node.created = node.connectors := by
  cases node with
  | piecewiseLink link =>
    change ((Node.piecewiseLink link).requests ++ []).map Request.declared = _
    rw [List.append_nil, Node.map_declared_requests]
    exact Node.engineNames_piecewiseLink link
  | _ => rfl

theorem Node.created_of_isPiecewise {node : Node} (h : node.IsPiecewise) :
    node.created = node.engineNames := by
  obtain ⟨link, rfl⟩ := h
  rw [created_eq_connectors, engineNames_piecewiseLink, connectors]

theorem Node.created_of_not_isPiecewise {node : Node} (h : ¬node.IsPiecewise) :
    node.created = [node.name] := by
  rw [created_eq_connectors]
  cases node with
  | piecewiseLink link => exact absurd ⟨link, rfl⟩ h
  | _ => rfl

namespace Model

open Build Resolution

variable {model : Model} {request : Request} {reference handed : String}

/-- Whether a request hands an engine node to an engine for a name that a model refers to: an end of
an edge, a member of a group, the storage node of a parameter or what a recorder watches. -/
inductive Hands (model : Model) : Request → String → String → Prop
  | source {edge : Edge} {source target : String} (edge_mem : edge ∈ model.edges)
      (put : .connect source target ∈ model.edgeRequests edge) :
      Hands model (.connect source target) edge.source source
  | target {edge : Edge} {source target : String} (edge_mem : edge ∈ model.edges)
      (put : .connect source target ∈ model.edgeRequests edge) :
      Hands model (.connect source target) edge.target target
  | member {group : AggregatedNode} {name : String} {members : List String}
      {factors : Option (List Float)} {index : ℕ} {reference handed : String}
      (group_mem : .aggregated group ∈ model.nodes.entities)
      (put : (Node.aggregated group).groupRequest? =
        some (.addAggregatedNode name members factors))
      (named : group.members[index]? = some reference) (stands : members[index]? = some handed) :
      Hands model (.addAggregatedNode name members factors) reference handed
  | storage {p : Parameter} {spec : ComponentSpec} {reference handed : String}
      (parameter_mem : p ∈ model.parameters.entities) (stores : p.Stores reference)
      (specified : p.spec model.specContext = .ok spec)
      (handed_mem : handed ∈ spec.nodeReferences) :
      Hands model (.createParameter p.name p.typeName spec) reference handed
  | watched {recorder : Recorder} {reference handed : String}
      (recorder_mem : recorder ∈ model.recorders.entities)
      (watches : recorder.nodeReferences = [reference])
      (handed_mem : handed ∈ (model.recorderSpec recorder).nodeReferences) :
      Hands model (model.recorderRequest recorder) reference handed

/-- That a node which is referred to is reached: what is handed out for it is created for a single
node, the right one unless a piecewise link is referred to verbatim. -/
structure Reached (model : Model) (request : Request) (handed : String) (node creator : Node) :
    Prop where
  declared : creator ∈ model.nodes.entities
  created : ∀ other ∈ model.nodes.entities, handed ∈ other.created ↔ other = creator
  right : creator = node ↔ ¬(node.IsPiecewise ∧ request.Verbatim)
  /-- The wrong one is another piecewise link. -/
  wrong : creator ≠ node → creator.IsPiecewise

/-- An engine node, be it a group, is created for one node only. -/
theorem StepsDistinct.eq_of_mem_created (hdistinct : model.StepsDistinct) {a b : Node}
    (ha : a ∈ model.nodes.entities) (hb : b ∈ model.nodes.entities) {name : String}
    (hna : name ∈ a.created) (hnb : name ∈ b.created) : a = b := by
  -- links have distinct steps, no step is called like another node, and nodes have distinct names
  by_cases hpa : a.IsPiecewise
  · by_cases hpb : b.IsPiecewise
    · rw [Node.created_of_isPiecewise hpa] at hna
      rw [Node.created_of_isPiecewise hpb] at hnb
      exact hdistinct.eq_of_mem_engineNames ha hb hna hnb
    · obtain ⟨link, rfl⟩ := hpa
      rw [Node.created_eq_connectors] at hna
      rw [Node.created_of_not_isPiecewise hpb, List.mem_singleton] at hnb
      exact absurd (hnb ▸ hna) (hdistinct link ha b hb hpb)
  · rw [Node.created_of_not_isPiecewise hpa, List.mem_singleton] at hna
    by_cases hpb : b.IsPiecewise
    · obtain ⟨link, rfl⟩ := hpb
      rw [Node.created_eq_connectors] at hnb
      exact absurd (hna ▸ hnb) (hdistinct link hb a ha hpa)
    · rw [Node.created_of_not_isPiecewise hpb, List.mem_singleton] at hnb
      exact Collection.eq_of_name_eq ha hb (hna.symm.trans hnb)

namespace Reached

variable {node : Node}

/-- Outside of the two verbatim uses of a link's own name, what is handed over is created for the
node that was meant. -/
theorem of_mem_created (hdistinct : model.StepsDistinct) (hnode : node ∈ model.nodes.entities)
    (hcreated : handed ∈ node.created) (hright : ¬(node.IsPiecewise ∧ request.Verbatim)) :
    model.Reached request handed node node where
  declared := hnode
  created := by
    intro other hother
    constructor
    · exact fun h => hdistinct.eq_of_mem_created hother hnode h hcreated
    · rintro rfl
      exact hcreated
  right := iff_of_true rfl hright
  wrong := fun hne => absurd rfl hne

/-- Where the name of a piecewise link is handed out itself, it is a step of another one. -/
theorem exists_of_piecewise (hdistinct : model.StepsDistinct)
    (hnode : node ∈ model.nodes.entities) (hpiecewise : node.IsPiecewise)
    (hverbatim : request.Verbatim) (hknown : node.name ∈ model.engineNames) :
    ∃ creator, model.Reached request node.name node creator := by
  obtain ⟨creator, hcreator, hname⟩ := mem_engineNames.mp hknown
  -- a link does not create its own name, so that another node has to
  have hother : creator ≠ node := by
    rintro rfl
    obtain ⟨link, rfl⟩ := hpiecewise
    rw [Node.engineNames_piecewiseLink] at hname
    exact link.name_not_mem_stepNames hname
  have hsteps : creator.IsPiecewise := by
    by_contra hsingle
    exact hother (Collection.eq_of_name_eq hcreator hnode
      (Node.eq_name_of_mem_engineNames hsingle hname).symm)
  rw [← Node.created_of_isPiecewise hsteps] at hname
  refine ⟨creator, hcreator, fun other hnode' => ?_, ?_, fun _ => hsteps⟩
  · constructor
    · exact fun h => hdistinct.eq_of_mem_created hnode' hcreator h hname
    · rintro rfl
      exact hname
  · exact iff_of_false hother fun hright => hright ⟨hpiecewise, hverbatim⟩

/-- A name that is handed out as it is written is that of an engine node, or of a group. -/
theorem exists_of_verbatim (hdistinct : model.StepsDistinct) (hnode : node ∈ model.nodes.entities)
    (hverbatim : request.Verbatim)
    (hknown : node.IsPiecewise → node.name ∈ model.engineNames) :
    ∃ creator, model.Reached request node.name node creator := by
  by_cases hpiecewise : node.IsPiecewise
  · exact exists_of_piecewise hdistinct hnode hpiecewise hverbatim (hknown hpiecewise)
  · have hcreated : node.name ∈ node.created := by
      rw [Node.created_of_not_isPiecewise hpiecewise]
      exact List.mem_singleton.mpr rfl
    exact ⟨node, of_mem_created hdistinct hnode hcreated fun h => hpiecewise h.1⟩

/-- A name that is handed out as what it stands for stands for its own engine nodes. -/
theorem exists_of_connectors (hdistinct : model.StepsDistinct)
    (hnode : node ∈ model.nodes.entities) (hother : ¬request.Verbatim)
    (hhanded : handed ∈ model.connectors node.name) :
    ∃ creator, model.Reached request handed node creator := by
  rw [connectors_of_mem hnode, ← Node.created_eq_connectors] at hhanded
  exact ⟨node, of_mem_created hdistinct hnode hhanded fun h => hother h.2⟩

end Reached

/-- An edge only joins names that stand for its two ends. -/
theorem mem_connectors_of_mem_edgeRequests {edge : Edge} {source target : String}
    (h : .connect source target ∈ model.edgeRequests edge) :
    source ∈ model.connectors edge.source ∧ target ∈ model.connectors edge.target := by
  obtain ⟨first, hfirst, hrequest⟩ := List.mem_flatMap.mp h
  obtain ⟨second, hsecond, hsame⟩ := List.mem_map.mp hrequest
  cases hsame
  exact ⟨hfirst, hsecond⟩

theorem nodeReferences_recorderSpec (recorder : Recorder) :
    (model.recorderSpec recorder).nodeReferences =
      recorder.nodeReferences.flatMap model.connectors := rfl

/-- In a model that can be built, what is handed out for a declared node is created for it, or for
another piecewise link. -/
theorem Hands.exists_reached (hbuildable : model.Buildable) {node : Node}
    (hnode : node ∈ model.nodes.entities) (hname : node.name = reference)
    (h : model.Hands request reference handed) :
    ∃ creator, model.Reached request handed node creator := by
  have hdistinct := hbuildable.steps_distinct
  cases h with
  | source _ put =>
    obtain ⟨hsource, -⟩ := mem_connectors_of_mem_edgeRequests put
    exact Reached.exists_of_connectors hdistinct hnode id (hname ▸ hsource)
  | target _ put =>
    obtain ⟨-, htarget⟩ := mem_connectors_of_mem_edgeRequests put
    exact Reached.exists_of_connectors hdistinct hnode id (hname ▸ htarget)
  | watched _ watches handed_mem =>
    rw [nodeReferences_recorderSpec, watches, List.flatMap_singleton] at handed_mem
    exact Reached.exists_of_connectors hdistinct hnode id (hname ▸ handed_mem)
  | member group_mem put named stands =>
    cases put
    obtain rfl : reference = handed := Option.some.inj (named.symm.trans stands)
    subst hname
    have hmember := hbuildable.members_single _ group_mem _ (List.mem_of_getElem? named)
    exact Reached.exists_of_verbatim hdistinct hnode trivial fun _ => hmember
  | storage parameter_mem stores specified handed_mem =>
    rw [(fits_of_spec specified).nodes] at handed_mem
    obtain rfl : handed = reference := stores.eq_of_mem handed_mem
    subst hname
    refine Reached.exists_of_verbatim hdistinct hnode trivial fun hpiecewise => ?_
    have hstores := Parameter.stores_iff.mpr handed_mem
    refine (hbuildable.nodes_known _ parameter_mem _ hstores).resolve_right ?_
    -- a group of this name would be the piecewise link itself
    rintro ⟨group, hgroup, hname⟩
    obtain ⟨link, rfl⟩ := hpiecewise
    cases Collection.eq_of_name_eq hgroup hnode hname

/-- What a model asks an engine for hands out engine nodes for what it refers to only. -/
theorem Asks.exists_hands (h : model.Asks request) (hhanded : handed ∈ request.handed) :
    ∃ reference, model.Hands request reference handed := by
  -- every request that hands over a name belongs to an entry of the model that refers to it
  cases h with
  | network hmem =>
    rcases List.mem_append.mp hmem with hnodes | hedges
    · rw [nodeRequests_eq, List.mem_append] at hnodes
      rcases hnodes with hsingles | hgroups
      · obtain ⟨name, kind, volume, rfl, -⟩ := exists_of_mem_singleRequests hsingles
        cases hhanded
      · obtain ⟨group, hgroup, rfl⟩ := List.mem_map.mp hgroups
        obtain ⟨index, hindex⟩ := List.mem_iff_getElem?.mp hhanded
        exact ⟨handed, .member (mem_groups.mp hgroup) rfl hindex hindex⟩
    · obtain ⟨edge, hedge, hput⟩ := List.mem_flatMap.mp hedges
      obtain ⟨source, -, hrequest⟩ := List.mem_flatMap.mp hput
      obtain ⟨target, -, rfl⟩ := List.mem_map.mp hrequest
      rcases List.mem_pair.mp hhanded with rfl | rfl
      · exact ⟨edge.source, .source hedge hput⟩
      · exact ⟨edge.target, .target hedge hput⟩
  | @parameter all p specified hp =>
    obtain ⟨hmem, hspec⟩ := spec_of_mem_specs specified p hp
    have hread : handed ∈ p.parameter.nodeReferences := by
      rw [← (fits_of_spec hspec).nodes]
      exact hhanded
    exact ⟨handed, .storage hmem (Parameter.stores_iff.mpr hread) hspec hhanded⟩
  | final hmem =>
    rcases List.mem_append.mp hmem with hrecorders | hrest
    · obtain ⟨recorder, hrecorder, rfl⟩ := List.mem_map.mp hrecorders
      obtain ⟨name, hname, -⟩ := List.mem_flatMap.mp hhanded
      obtain ⟨reference, hwatches⟩ := recorder.exists_nodeReferences_eq hname
      exact ⟨reference, .watched hrecorder hwatches hhanded⟩
    · rcases List.mem_append.mp hrest with houtputs | hlimits
      · obtain ⟨output, -, rfl⟩ := List.mem_map.mp houtputs
        cases hhanded
      · obtain ⟨node, -, hlimit⟩ := List.mem_flatMap.mp hlimits
        rcases exists_of_mem_constraintRequests hlimit with ⟨_, _, rfl⟩ | ⟨_, _, _, rfl⟩
        · cases hhanded
        · cases hhanded

/-- A build that comes to its end has been granted all that hands out engine nodes. -/
theorem Hands.grant_mem {transcript : List Exchange} {report : BuildReport}
    (hbuilt : model.Built transcript (.ok report)) (h : model.Hands request reference handed) :
    .grant request ∈ transcript := by
  cases hbuilt with
  | @finished xs resolution course =>
    have hnetwork (hmem : request ∈ model.networkRequests) :
        .grant request ∈ model.networkRequests.map Exchange.grant ++
          (xs ++ model.finalRequests.map Exchange.grant) :=
      List.mem_append_left _ (List.mem_map_of_mem hmem)
    cases h with
    | source edge_mem put =>
      exact hnetwork (List.mem_append_right _ (List.mem_flatMap.mpr ⟨_, edge_mem, put⟩))
    | target edge_mem put =>
      exact hnetwork (List.mem_append_right _ (List.mem_flatMap.mpr ⟨_, edge_mem, put⟩))
    | member group_mem put =>
      refine hnetwork (List.mem_append_left _ (List.mem_append_right _ ?_))
      exact List.mem_flatMap.mpr ⟨_, group_mem, by rw [put]; exact List.mem_singleton.mpr rfl⟩
    | @storage p spec _ _ parameter_mem _ specified =>
      obtain ⟨all, created, hspecs, hperm, -, hgranted⟩ := course.exists_created
      obtain ⟨q, hq, rfl⟩ := (prepared_of_specs hspecs).exists_pending parameter_mem
      obtain ⟨-, hspec⟩ := spec_of_mem_specs hspecs q hq
      obtain rfl : q.spec = spec := Except.ok.inj (hspec.symm.trans specified)
      -- the parameter may be put off at first, but it is created in the end
      have hcreated : q.request ∈ xs.filterMap Exchange.granted? := by
        rw [hgranted]
        exact List.mem_map_of_mem (hperm.mem_iff.mpr hq)
      obtain ⟨exchange, hexchange, hsome⟩ := List.mem_filterMap.mp hcreated
      rw [← Exchange.eq_grant_of_granted? hsome] at hexchange
      exact List.mem_append_right _ (List.mem_append_left _ hexchange)
    | watched recorder_mem =>
      refine List.mem_append_right _ (List.mem_append_right _ (List.mem_map_of_mem ?_))
      exact List.mem_append_left _ (List.mem_map_of_mem recorder_mem)

/-- In a build that succeeds, all engine nodes that are handed to the engine stand for what the
model refers to, and each of those that stand for a declared node is created for one node: the right
one, unless a group or a parameter names a piecewise link, whose name is that of a step of another
one then. -/
theorem reached_of_build {strictness : Strictness} {document : Document}
    (hload : load? strictness document = .ok model) {solvers : List String}
    {report : BuildReport} {final : Plan}
    (hbuild : outcome (model.build Plan.engine) (Plan.new solvers) = (.ok report, final)) :
    ∃ transcript,
      Runs (fun _ engine => model.build engine) Plan.engine (Plan.new solvers) transcript
        (.ok report) final ∧
      (∀ exchange ∈ transcript, ∀ handed ∈ exchange.request.handed,
        ∃ reference, model.Hands exchange.request reference handed) ∧
      ∀ request reference handed, model.Hands request reference handed →
        .grant request ∈ transcript ∧
        ∀ node ∈ model.nodes.entities, node.name = reference →
          ∃ creator, model.Reached request handed node creator := by
  have hsucceeds : Succeeds (model.build Plan.engine) (Plan.new solvers) :=
    ⟨report, congrArg Prod.fst hbuild⟩
  -- a model that was built meets the criterion, which says what each reference is there for
  have hbuildable : model.Buildable :=
    (succeeds_build_iff_of_valid (valid_of_load? hload) solvers).mp hsucceeds
  obtain ⟨transcript, result, last, hruns, hbuilt⟩ :=
    model.follows_build.exists_runs Plan.engine (Plan.new solvers)
  obtain ⟨rfl, rfl⟩ := Prod.mk.inj (hruns.outcome_eq.symm.trans hbuild)
  refine ⟨transcript, hruns, fun exchange hexchange handed hhanded => ?_, ?_⟩
  · exact (hbuilt.asks exchange hexchange).exists_hands hhanded
  · intro request reference handed hhands
    refine ⟨hhands.grant_mem hbuilt, fun node hnode hname => ?_⟩
    exact hhands.exists_reached hbuildable hnode hname

/-- A river in one band, another one that is called like this band, and a licence for the latter. -/
def delta : Document :=
  .mapping [
    ("timestepper", .mapping [("start", .text "2020-01-01"), ("end", .text "2020-01-31"),
      ("timestep", .number (.integer 1))]),
    ("nodes", .sequence [
      .mapping [("type", .text "PiecewiseLink"), ("name", .text "river"),
        ("steps", .sequence [.mapping []])],
      .mapping [("type", .text "PiecewiseLink"), ("name", .text "river.step-0"),
        ("steps", .sequence [.mapping []])],
      .mapping [("type", .text "Aggregated"), ("name", .text "licence"),
        ("nodes", .texts ["river.step-0"])]])]

theorem exists_build_delta :
    ∃ model report final, load? .strict delta = .ok model ∧
      outcome (model.build Plan.engine) (Plan.new []) = (.ok report, final) ∧
      model.nodes.entities.map (fun node => (node.name, node.created)) =
        [("river", ["river.step-0"]), ("river.step-0", ["river.step-0.step-0"]),
          ("licence", ["licence"])] ∧
      model.groups.map AggregatedNode.members = [["river.step-0"]] := by
  have hbuilt : ((load? .strict delta).toOption.bind fun model =>
      match (outcome (model.build Plan.engine) (Plan.new [])).1 with
      | .ok _ =>
        some (model.nodes.entities.map fun node => (node.name, node.created),
          model.groups.map AggregatedNode.members)
      | .error _ => none) =
        some ([("river", ["river.step-0"]), ("river.step-0", ["river.step-0.step-0"]),
          ("licence", ["licence"])], [["river.step-0"]]) := by decide +kernel
  obtain ⟨model, hload, hend⟩ := bind_toOption_eq_some_iff.mp hbuilt
  split at hend
  · rename_i report hresult
    simp only [Option.some.injEq, Prod.mk.injEq] at hend
    obtain ⟨hnodes, hgroups⟩ := hend
    exact ⟨model, report, _, hload, Prod.ext hresult rfl, hnodes, hgroups⟩
  · cases hend

theorem reached_of_build_delta :
    ∃ model report final, load? .strict delta = .ok model ∧
      outcome (model.build Plan.engine) (Plan.new []) = (.ok report, final) ∧
      ∀ request reference handed, model.Hands request reference handed →
        ∀ node ∈ model.nodes.entities, node.name = reference →
          ∃ creator, model.Reached request handed node creator := by
  obtain ⟨model, report, final, hload, hbuild, -⟩ := exists_build_delta
  obtain ⟨transcript, -, -, hreached⟩ := reached_of_build hload hbuild
  refine ⟨model, report, final, hload, hbuild, fun request reference handed hhands => ?_⟩
  exact (hreached request reference handed hhands).2

/-- A reference to a declared node may reach an engine node that is created for another one. -/
theorem reaches_step_of_other_link :
    ∃ model report final request, load? .strict delta = .ok model ∧
      outcome (model.build Plan.engine) (Plan.new []) = (.ok report, final) ∧
      model.Hands request "river.step-0" "river.step-0" ∧
      (∃ node ∈ model.nodes.entities, node.name = "river.step-0" ∧
        "river.step-0" ∉ node.created) ∧
      ∃ other ∈ model.nodes.entities, other.name = "river" ∧ "river.step-0" ∈ other.created := by
  obtain ⟨model, report, final, hload, hbuild, hnodes, hgroups⟩ := exists_build_delta
  have hgroup : ["river.step-0"] ∈ model.groups.map AggregatedNode.members := by
    rw [hgroups]
    exact List.mem_singleton.mpr rfl
  obtain ⟨group, hgroup, hmembers⟩ := List.mem_map.mp hgroup
  have hmember : group.members[0]? = some "river.step-0" := by rw [hmembers]; rfl
  have hhands := Hands.member (mem_groups.mp hgroup) rfl hmember hmember
  -- the nodes are known by their names and by what is created for them
  have hlisted (entry : String × List String) (hentry : entry ∈ model.nodes.entities.map
      fun node => (node.name, node.created)) :
      ∃ node ∈ model.nodes.entities, node.name = entry.1 ∧ node.created = entry.2 := by
    obtain ⟨node, hnode, rfl⟩ := List.mem_map.mp hentry
    exact ⟨node, hnode, rfl, rfl⟩
  rw [hnodes] at hlisted
  obtain ⟨node, hnode, hname, hcreated⟩ :=
    hlisted ("river.step-0", ["river.step-0.step-0"]) (by decide)
  obtain ⟨other, hother, hname', hcreated'⟩ := hlisted ("river", ["river.step-0"]) (by decide)
  refine ⟨model, report, final, _, hload, hbuild, hhands, ⟨node, hnode, hname, ?_⟩,
    ⟨other, hother, hname', ?_⟩⟩
  · rw [hcreated]
    decide
  · rw [hcreated']
    decide

end Model

end FlowPlan
