import FlowPlan.Proofs.Limits
import FlowPlan.Proofs.Resolution

namespace FlowPlan

/-- What an engine needs for a parameter can be put together unless a table is missing. -/
theorem Parameter.exists_spec_iff {context : SpecContext} {p : Parameter}
    (hvalid : p.invalidity? = none) :
    (∃ spec, p.spec context = .ok spec) ↔
      ∀ frame, p = .dataFrame frame → frame.url = none → ∀ table, frame.table = some table →
        context.tables.contains table = true := by
  -- only the files that a specification names can fail to be found
  have hfiles : (∃ spec, p.spec context = .ok spec) ↔ ∃ files, p.files context = .ok files := by
    unfold spec
    simp only [bind_eq_ok_iff]
    constructor
    · rintro ⟨_, files, hfiles, -⟩
      exact ⟨files, hfiles⟩
    · rintro ⟨files, hfiles⟩
      exact ⟨_, files, hfiles, rfl⟩
  rw [hfiles]
  cases p with
  | dataFrame frame =>
    have hdata : (∃ files, (Parameter.dataFrame frame).files context = .ok files) ↔
        ∃ file, dataFile context frame = .ok file := by
      unfold files
      simp only [bind_eq_ok_iff]
      constructor
      · rintro ⟨_, file, hfile, -⟩
        exact ⟨file, hfile⟩
      · rintro ⟨file, hfile⟩
        exact ⟨_, file, hfile, rfl⟩
    rw [hdata]
    simp only [Parameter.dataFrame.injEq, forall_eq']
    unfold dataFile
    cases hurl : frame.url with
    | some url => simp
    | none =>
      cases htable : frame.table with
      | none => simp [invalidity?, hurl, htable] at hvalid
      | some table =>
        simp only [bind_eq_ok_iff, true_imp_iff, Option.some.injEq, forall_eq']
        cases hfound : context.tables.find? table with
        | none =>
          have hmissing := Collection.find?_eq_none_iff.mp hfound
          simp [Collection.get, hfound, hmissing]
        | some found =>
          obtain ⟨hmem, hname⟩ := Collection.find?_eq_some_iff.mp hfound
          have hdeclared : context.tables.contains table = true :=
            Collection.contains_iff.mpr ⟨found, hmem, hname⟩
          refine iff_of_true ⟨_, found, ?_, rfl⟩ hdeclared
          simp only [Collection.get, hfound]
  | _ =>
    refine iff_of_true ⟨[], rfl⟩ fun frame hframe => ?_
    cases hframe

namespace Model

open Build

/-- Whether everything that a model refers to is there, in the form in which it is needed. -/
structure Buildable (model : Model) : Prop where
  /-- No node that is no piecewise link is called like a step of one. -/
  steps_distinct : model.StepsDistinct
  /-- Members of groups are engine nodes of nodes that are no groups. -/
  members_single : model.MembersSingle
  -- edges join nodes that are no groups
  edges_attachable : ∀ edge ∈ model.edges,
    model.Attachable edge.source ∧ model.Attachable edge.target
  tables_declared : ∀ frame, .dataFrame frame ∈ model.parameters.entities → frame.url = none →
    ∀ table, frame.table = some table → model.tables.contains table = true
  references_declared : Closed model.parameters
  references_acyclic : Acyclic model.parameters
  /-- The storage nodes that parameters read are engine nodes, or groups. -/
  nodes_known : ∀ p ∈ model.parameters.entities, ∀ node, p.Stores node →
    node ∈ model.engineNames ∨
      ∃ group, .aggregated group ∈ model.nodes.entities ∧ group.name = node
  recordable : ∀ recorder ∈ model.recorders.entities, model.Recordable recorder
  /-- The costs and bounds of nodes name declared parameters. -/
  limits_declared : ∀ node ∈ model.nodes.entities, ∀ name, node.Holds (.parameter name) →
    model.parameters.contains name = true

variable {model : Model}

/-- What an engine needs for the parameters of a valid model can be put together when the tables
that they take their data from are declared. -/
theorem forall_exists_spec_iff (hvalid : model.Valid) :
    (∀ p ∈ model.parameters.entities, ∃ spec, p.spec model.specContext = .ok spec) ↔
      ∀ frame, .dataFrame frame ∈ model.parameters.entities → frame.url = none →
        ∀ table, frame.table = some table → model.tables.contains table = true := by
  constructor
  · intro hall frame hframe
    have hspec := hall _ hframe
    rw [Parameter.exists_spec_iff (hvalid.parameters _ hframe)] at hspec
    exact hspec frame rfl
  · intro hall p hp
    rw [Parameter.exists_spec_iff (hvalid.parameters p hp)]
    rintro frame rfl
    exact hall frame hp

/-- The parameters of a valid model can be created on its foundation when all that they refer to is
there. -/
theorem resolve_succeeds_iff_of_founded (hvalid : model.Valid) {plan : Plan}
    (h : Founded model plan) (hnew : plan.parameters = []) :
    (∃ resolution final,
      outcome (Resolution.resolve Plan.engine model.specContext model.parameters) plan =
        (.ok resolution, final)) ↔
      (∀ frame, .dataFrame frame ∈ model.parameters.entities → frame.url = none →
        ∀ table, frame.table = some table → model.tables.contains table = true) ∧
      Closed model.parameters ∧ Acyclic model.parameters ∧
      ∀ p ∈ model.parameters.entities, ∀ node, p.Stores node →
        node ∈ model.engineNames ∨
          ∃ group, .aggregated group ∈ model.nodes.entities ∧ group.name = node := by
  rw [Resolution.resolve_succeeds_iff hnew, forall_exists_spec_iff hvalid]
  unfold Plan.Knows
  simp only [h.nodeKind?_ne_none_iff]

/-- After the parameters, the recorders, outputs, costs and bounds of a valid model can be created
when what they refer to is there. -/
theorem admits_rest_iff (hvalid : model.Valid) {plan : Plan} (h : Founded model plan)
    (hsupplied : Supplied model plan) (hrecorders : plan.recorders = [])
    (houtputs : plan.outputs = []) :
    plan.Admits (model.recorders.entities.map model.recorderRequest ++
        model.outputs.entities.map model.outputRequest ++
        model.nodes.entities.flatMap constraintRequests) ↔
      (∀ recorder ∈ model.recorders.entities, model.Recordable recorder) ∧
      ∀ node ∈ model.nodes.entities, ∀ name, node.Holds (.parameter name) →
        model.parameters.contains name = true := by
  -- recorders are no outputs, so no output is there when the first one is created
  have hrecorded : (plan.addAll (model.recorders.entities.map model.recorderRequest)).outputs =
      [] := by
    rw [Plan.outputs_addAll, houtputs, List.nil_append, List.filterMap_eq_nil_iff]
    exact List.forall_mem_map.mpr fun _ _ => rfl
  -- limits are checked against the nodes and parameters, which no recorder or output changes
  obtain ⟨hfounded, hstill⟩ : Founded model
        (plan.addAll (model.recorders.entities.map model.recorderRequest ++
          model.outputs.entities.map model.outputRequest)) ∧
      Supplied model (plan.addAll (model.recorders.entities.map model.recorderRequest ++
        model.outputs.entities.map model.outputRequest)) := by
    apply founded_and_supplied_addAll h hsupplied
    · rw [List.forall_mem_append]
      exact ⟨List.forall_mem_map.mpr fun _ _ => rfl, List.forall_mem_map.mpr fun _ _ => rfl⟩
    · rw [List.forall_mem_append]
      exact ⟨List.forall_mem_map.mpr fun _ _ => rfl, List.forall_mem_map.mpr fun _ _ => rfl⟩
  rw [Plan.admits_append, Plan.admits_append,
    admits_recorderRequests_iff hvalid h hsupplied hrecorders,
    admits_constraintRequests_iff hfounded hstill]
  exact and_congr_left' (and_iff_left (admits_outputRequests model hrecorded))

/-- When a build gets to the parameters, the plan has the engine nodes of the model and nothing
else. -/
theorem declared_before_parameters (model : Model) (solvers : List String) :
    let founded := (Plan.new solvers).addAll model.nodeRequests
    let connected := founded.addAll (model.edges.flatMap model.edgeRequests)
    connected.nodes = founded.nodes ∧ connected.parameters = [] ∧ connected.recorders = [] ∧
      connected.outputs = [] := by
  -- requests of nodes only declare nodes, and those of edges declare nothing
  have hnodes : ∀ request ∈ model.nodeRequests,
      request.parameter? = none ∧ request.recorder? = none ∧ request.output? = none := by
    intro request hrequest
    rw [nodeRequests_eq, List.mem_append] at hrequest
    rcases hrequest with hsingle | hgroup
    · obtain ⟨name, kind, volume, rfl, -⟩ := exists_of_mem_singleRequests hsingle
      exact ⟨rfl, rfl, rfl⟩
    · obtain ⟨group, -, rfl⟩ := List.mem_map.mp hgroup
      exact ⟨rfl, rfl, rfl⟩
  have hedges : ∀ request ∈ model.edges.flatMap model.edgeRequests, request.Silent :=
    silent_of_mem_edgeRequests
  -- what a plan holds is what it held and what the requests declare
  refine ⟨?_, ?_, ?_, ?_⟩
  · rw [Plan.nodes_addAll, List.filterMap_eq_nil_iff.mpr fun r hr => (hedges r hr).1,
      List.append_nil]
  · rw [Plan.parameters_addAll, Plan.parameters_addAll,
      List.filterMap_eq_nil_iff.mpr fun r hr => (hedges r hr).2.1,
      List.filterMap_eq_nil_iff.mpr fun r hr => (hnodes r hr).1]
    rfl
  · rw [Plan.recorders_addAll, Plan.recorders_addAll,
      List.filterMap_eq_nil_iff.mpr fun r hr => (hedges r hr).2.2.1,
      List.filterMap_eq_nil_iff.mpr fun r hr => (hnodes r hr).2.1]
    rfl
  · rw [Plan.outputs_addAll, Plan.outputs_addAll,
      List.filterMap_eq_nil_iff.mpr fun r hr => (hedges r hr).2.2.2,
      List.filterMap_eq_nil_iff.mpr fun r hr => (hnodes r hr).2.2]
    rfl

/-- A model whose entries are valid builds on a new plan exactly when it is buildable: phase by
phase, what the phase needs is what the plan checks. -/
theorem succeeds_build_iff_of_valid (hvalid : model.Valid) (solvers : List String) :
    Succeeds (model.build Plan.engine) (Plan.new solvers) ↔ model.Buildable := by
  obtain ⟨hnodes, hparameters, hrecorders, houtputs⟩ := declared_before_parameters model solvers
  have hlaid (hsteps : model.StepsDistinct) :
      Founded model ((Plan.new solvers).addAll model.nodeRequests) :=
    Founded.of_nodeRequests hsteps rfl
  -- each phase runs on a plan that still has the engine nodes created by the first
  rw [succeeds_build_iff, admits_nodeRequests_iff hvalid]
  constructor
  · rintro ⟨⟨hsteps, hmembers⟩, hedges, resolution, resolved, hresolve, hrest⟩
    have hconnected := (hlaid hsteps).of_nodes_eq hnodes
    obtain ⟨htables, hdeclared, hacyclic, hknown⟩ :=
      (resolve_succeeds_iff_of_founded hvalid hconnected hparameters).mp ⟨_, _, hresolve⟩
    obtain ⟨hsame, hrecorders', houtputs', hsupplied⟩ :=
      Resolution.plan_of_resolve_ok hparameters hresolve
    obtain ⟨hrecordable, hlimits⟩ := (admits_rest_iff hvalid (hconnected.of_nodes_eq hsame)
      hsupplied (hrecorders'.trans hrecorders) (houtputs'.trans houtputs)).mp hrest
    exact {
      steps_distinct := hsteps
      members_single := hmembers
      edges_attachable := (admits_edgeRequests_iff hvalid (hlaid hsteps)).mp hedges
      tables_declared := htables
      references_declared := hdeclared
      references_acyclic := hacyclic
      nodes_known := hknown
      recordable := hrecordable
      limits_declared := hlimits }
  · intro h
    have hconnected := (hlaid h.steps_distinct).of_nodes_eq hnodes
    obtain ⟨resolution, resolved, hresolve⟩ :=
      (resolve_succeeds_iff_of_founded hvalid hconnected hparameters).mpr
        ⟨h.tables_declared, h.references_declared, h.references_acyclic, h.nodes_known⟩
    obtain ⟨hsame, hrecorders', houtputs', hsupplied⟩ :=
      Resolution.plan_of_resolve_ok hparameters hresolve
    refine ⟨⟨h.steps_distinct, h.members_single⟩, ?_, resolution, resolved, hresolve, ?_⟩
    · exact (admits_edgeRequests_iff hvalid (hlaid h.steps_distinct)).mpr h.edges_attachable
    · exact (admits_rest_iff hvalid (hconnected.of_nodes_eq hsame) hsupplied
        (hrecorders'.trans hrecorders) (houtputs'.trans houtputs)).mpr
          ⟨h.recordable, h.limits_declared⟩

/-- The build of a loaded model on a new plan succeeds exactly when everything that the model refers
to is there. -/
theorem build_succeeds_iff {strictness : Strictness} {document : Document}
    (hload : load? strictness document = .ok model) (solvers : List String) :
    (∃ report, (outcome (model.build Plan.engine) (Plan.new solvers)).1 = .ok report) ↔
      model.Buildable :=
  succeeds_build_iff_of_valid (valid_of_load? hload) solvers

/-- A canal in two bands, in a group with its source, and a cost that comes from a table. -/
def canal : Document :=
  .mapping [
    ("timestepper", .mapping [("start", .text "2020-01-01"), ("end", .text "2020-01-31"),
      ("timestep", .number (.integer 1))]),
    ("nodes", .sequence [
      .mapping [("type", .text "Aggregated"), ("name", .text "group"),
        ("nodes", .texts ["source", "canal.step-1"])],
      .mapping [("type", .text "Input"), ("name", .text "source"), ("cost", .text "net")],
      .mapping [("type", .text "PiecewiseLink"), ("name", .text "canal"),
        ("steps", .sequence [.mapping [("max_flow", .text "net")], .mapping []])],
      .mapping [("type", .text "Output"), ("name", .text "sink")]]),
    ("edges", .sequence [
      .mapping [("from_node", .text "source"), ("to_node", .text "canal")],
      .mapping [("from_node", .text "canal.step-0"), ("to_node", .text "sink")]]),
    ("parameters", .sequence [
      .mapping [("type", .text "Negative"), ("name", .text "net"), ("parameter", .text "rain")],
      .mapping [("type", .text "DataFrame"), ("name", .text "rain"), ("table", .text "gauges"),
        ("column", .text "mm")]]),
    ("recorders", .sequence [
      .mapping [("type", .text "NodeFlow"), ("name", .text "flow"), ("node", .text "canal")],
      .mapping [("type", .text "Parameter"), ("name", .text "losses"),
        ("parameter", .text "net")]]),
    ("tables", .sequence [
      .mapping [("type", .text "CSV"), ("name", .text "gauges"), ("url", .text "gauges.csv")]])]

theorem build_succeeds_canal :
    ∃ model, load? .strict canal = .ok model ∧
      (∃ report, (outcome (model.build Plan.engine) (Plan.new [])).1 = .ok report) ∧
      model.Buildable := by
  have hbuilt : ((load? .strict canal).toOption.map fun model =>
      (outcome (model.build Plan.engine) (Plan.new [])).1.toOption.isSome) = some true := by
    decide +kernel
  obtain ⟨model, hload, hreport⟩ := map_toOption_eq_some_iff.mp hbuilt
  have hsucceeds := isSome_toOption_iff.mp hreport
  have hbuildable := (build_succeeds_iff hload []).mp hsucceeds
  exact ⟨model, hload, hsucceeds, hbuildable⟩

end Model

end FlowPlan
