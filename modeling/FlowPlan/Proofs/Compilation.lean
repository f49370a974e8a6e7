import FlowPlan.Proofs.Build
import FlowPlan.Proofs.Building

namespace FlowPlan

namespace Call

def limits (node : String) (cost : Option Quantity) (bounds : List (Bound × Option Quantity)) :
    List Call :=
  (cost.map (setCost node)).toList ++
    bounds.flatMap fun (bound, value) => (value.map (setBound node bound)).toList

end Call

namespace Node

open Call

def singleCalls : Node → List Call
  | input node => [addNode node.name .input none]
  | link node => [addNode node.name .link none]
  | output node => [addNode node.name .output none]
  | storage node => [addNode node.name .storage (some node.initialVolume)]
  | catchment node => [addNode node.name .input none]
  | aggregated _ => []
  | piecewiseLink node =>
    (List.range node.steps.length).map fun index => addNode (node.stepName index) .link none

def groupCalls : Node → List Call
  | aggregated group => [addAggregatedNode group.name group.members group.factors]
  | _ => []

/-- The calls that set the costs and bounds of a node. -/
def limitCalls : Node → List Call
  | input node =>
    limits node.name node.cost [(.minFlow, node.minFlow), (.maxFlow, node.maxFlow)]
  | link node =>
    limits node.name node.cost [(.minFlow, node.minFlow), (.maxFlow, node.maxFlow)]
  | output node =>
    limits node.name node.cost [(.minFlow, node.minFlow), (.maxFlow, node.maxFlow)]
  | storage node =>
    limits node.name node.cost [(.minVolume, node.minVolume), (.maxVolume, node.maxVolume)]
  | catchment node =>
    limits node.name node.cost [(.minFlow, node.flow), (.maxFlow, node.flow)]
  | aggregated group =>
    limits group.name none [(.minFlow, group.minFlow), (.maxFlow, group.maxFlow)]
  | piecewiseLink node => node.steps.zipIdx.flatMap fun (step, index) =>
    limits (node.stepName index) step.cost [(.maxFlow, step.maxFlow)]

/-- The requests for the engine nodes of a node leave the calls that are read off it. -/
theorem map_ofRequest_requests (node : Node) : node.requests.map ofRequest = node.singleCalls := by
  cases node with
  | piecewiseLink link =>
    unfold requests engineNodes PiecewiseLink.stepNames
    rw [List.map_map, List.map_map, List.map_map]
    rfl
  | _ => rfl

theorem map_ofRequest_groupRequest? (node : Node) :
    node.groupRequest?.toList.map ofRequest = node.groupCalls := by
  cases node with
  | _ => rfl

/-- A cost and some bounds that are set on one engine node. -/
theorem map_ofRequest_limits (target : String) (cost : Option Quantity)
    (bounds : List (Bound × Option Quantity)) :
    (Constraint.ofCost cost ++ bounds.flatMap fun (bound, value) =>
      Constraint.ofBound bound value).map (fun c => ofRequest (c.request target)) =
        limits target cost bounds := by
  have hcost : (Constraint.ofCost cost).map (fun c => ofRequest (c.request target)) =
      (cost.map (setCost target)).toList := by
    cases cost with
    | none => rfl
    | some quantity => rfl
  unfold limits
  rw [List.map_append, hcost, List.map_flatMap]
  -- a limit that is not given asks for nothing
  congr 1
  refine List.flatMap_congr fun (bound, value) _ => ?_
  cases value with
  | none => rfl
  | some quantity => rfl

/-- The requests for the costs and bounds of a node leave the calls that are read off it, step by
step for a piecewise link. -/
theorem map_ofRequest_constraintRequests (node : Node) :
    (Model.constraintRequests node).map ofRequest = node.limitCalls := by
  -- all nodes but piecewise links have one engine node, which all their constraints are set on
  have hsingle {target : String} {cost : Option Quantity} {bounds : List (Bound × Option Quantity)}
      (h : node.engineConstraints =
        (Constraint.ofCost cost ++ bounds.flatMap fun (bound, value) =>
          Constraint.ofBound bound value).map fun c => (target, c)) :
      (Model.constraintRequests node).map ofRequest = limits target cost bounds := by
    rw [Model.constraintRequests, h, List.map_map, List.map_map]
    exact map_ofRequest_limits target cost bounds
  cases node with
  | piecewiseLink link =>
    unfold Model.constraintRequests engineConstraints limitCalls
    rw [List.map_flatMap, List.map_flatMap]
    refine List.flatMap_congr fun (step, index) _ => ?_
    have hstep := map_ofRequest_limits (link.stepName index) step.cost [(.maxFlow, step.maxFlow)]
    rw [List.flatMap_singleton] at hstep
    dsimp only
    rw [← hstep, List.map_map, List.map_map]
    rfl
  | aggregated group =>
    exact hsingle (by simp [engineConstraints, constraints, Constraint.ofCost, name])
  | _ => exact hsingle (by simp [engineConstraints, constraints, constraints.ofFlowNode, name])

end Node

namespace Model

open Call Build Resolution

variable (model : Model)

/-- The calls that connect each engine node of the source of an edge to each one of the target. -/
def connectionCalls (edge : Edge) : List Call :=
  (model.standIns edge.source).flatMap fun source =>
    (model.standIns edge.target).map fun target => connect source target

def parameterCalls (order : List String) : List Call :=
  order.filterMap fun name =>
    (model.parameters.find? name).map fun p => createParameter name p.typeName

def recorderCall (recorder : Recorder) : Call :=
  createRecorder recorder.name recorder.typeName

/-- The file of an output: an absolute one as it is, any other one in the directory of the model, if
the model has one. -/
def outputFile (output : Output) : String :=
  if output.filename.startsWith "/" then output.filename
  else
    match model.path with
    | none => output.filename
    | some directory =>
      if directory.isEmpty ∨ directory.endsWith "/" then directory ++ output.filename
      else directory ++ "/" ++ output.filename

def outputCall (output : Output) : Call :=
  createOutput output.name output.typeName [model.outputFile output]

def limitCalls : List Call :=
  model.nodes.entities.flatMap Node.limitCalls

/-- All calls that a model stands for, when its parameters are created in a given order. -/
def compilation (order : List String) : List Call :=
  model.nodes.entities.flatMap Node.singleCalls ++
  model.nodes.entities.flatMap Node.groupCalls ++
  model.edges.flatMap model.connectionCalls ++
  model.parameterCalls order ++
  model.recorders.entities.map recorderCall ++
  model.outputs.entities.map model.outputCall ++
  model.limitCalls

/-- Files of outputs are resolved as the model says, whether or not it has a directory. -/
theorem resolvePath_filename (output : Output) :
    model.specContext.resolvePath output.filename = model.outputFile output := by
  unfold SpecContext.resolvePath specContext outputFile
  dsimp only
  -- an absolute filename stands as it is, with a directory or without
  by_cases habsolute : output.filename.startsWith "/" = true
  · rw [if_pos habsolute]
    cases model.path with
    | none => rfl
    | some directory => exact if_pos (Or.inl habsolute)
  rw [if_neg habsolute]
  cases model.path with
  | none => rfl
  | some directory =>
    dsimp only
    unfold Path.join Path.isAbsolute
    by_cases hempty : directory.isEmpty = true
    · -- the empty directory adds nothing in front
      have hnothing : directory ++ output.filename = output.filename := by
        rw [String.isEmpty_iff.mp hempty, String.empty_append]
      rw [if_pos (Or.inr hempty), if_pos (Or.inl hempty), hnothing]
    · rw [if_neg (not_or.mpr ⟨habsolute, hempty⟩)]
      simp only [hempty, Bool.false_eq_true, false_or]

/-- An output is created with its file where the model says it is. -/
theorem ofRequest_outputRequest (output : Output) :
    ofRequest (model.outputRequest output) = model.outputCall output := by
  rw [outputCall, ← model.resolvePath_filename]
  rfl

theorem map_ofRequest_outputRequests :
    (model.outputs.entities.map model.outputRequest).map ofRequest =
      model.outputs.entities.map model.outputCall := by
  rw [List.map_map]
  exact List.map_congr_left fun output _ => model.ofRequest_outputRequest output

/-- What is asked for before the parameters leaves the calls that the nodes and the edges stand for.
-/
theorem map_ofRequest_networkRequests :
    model.networkRequests.map ofRequest =
      model.nodes.entities.flatMap Node.singleCalls ++
      model.nodes.entities.flatMap Node.groupCalls ++
      model.edges.flatMap model.connectionCalls := by
  have hedge (edge : Edge) :
      (model.edgeRequests edge).map ofRequest = model.connectionCalls edge := by
    unfold edgeRequests connectionCalls
    rw [List.map_flatMap]
    simp only [connectors_eq_standIns]
    refine List.flatMap_congr fun source _ => ?_
    rw [List.map_map]
    rfl
  unfold networkRequests nodeRequests
  simp only [List.map_append, List.map_flatMap, Node.map_ofRequest_requests,
    Node.map_ofRequest_groupRequest?, hedge]

theorem map_ofRequest_limitRequests :
    (model.nodes.entities.flatMap constraintRequests).map ofRequest = model.limitCalls := by
  rw [List.map_flatMap]
  simp only [Node.map_ofRequest_constraintRequests]
  rfl

/-- What is asked for after the parameters leaves the calls that the recorders, the outputs and the
limits stand for. -/
theorem map_ofRequest_finalRequests :
    model.finalRequests.map ofRequest =
      model.recorders.entities.map recorderCall ++
      (model.outputs.entities.map model.outputCall ++ model.limitCalls) := by
  unfold finalRequests
  rw [List.map_append, List.map_append, List.map_map, map_ofRequest_outputRequests,
    map_ofRequest_limitRequests]
  rfl

/-- Parameters that are created leave the calls for their names. -/
theorem map_ofRequest_pending {created : List Pending}
    (hcreated : ∀ p ∈ created, p.parameter ∈ model.parameters.entities) :
    (created.map Pending.request).map ofRequest =
      model.parameterCalls (created.map Pending.name) := by
  -- each name is looked up again, and found under the parameter that it was taken from
  unfold parameterCalls
  rw [List.map_map, List.filterMap_map, ← List.filterMap_eq_map]
  refine List.filterMap_congr fun p hp => ?_
  have hfound : model.parameters.find? p.name = some p.parameter :=
    Collection.find?_eq_some_iff.mpr ⟨hcreated p hp, rfl⟩
  change _ = (model.parameters.find? p.name).map _
  rw [hfound]
  rfl

/-- Whether a report counts what a model declares, and the calls that set costs and bounds. -/
structure Counted (report : BuildReport) : Prop where
  nodes : report.nodes = model.nodes.size
  edges : report.edges = model.edges.length
  parameters : report.parameters = model.parameters.size
  recorders : report.recorders = model.recorders.size
  outputs : report.outputs = model.outputs.size
  constraints : report.constraints = model.limitCalls.length

/-- A build that comes to its end has added to its plan what the model asks for before its
parameters, each of these once, and what it asks for after them. -/
theorem exists_addAll_of_build {model : Model} {plan final : Plan} {report : BuildReport}
    (hbuild : outcome (model.build Plan.engine) plan = (.ok report, final)) :
    ∃ created : List Pending, (created.map Pending.parameter).Perm model.parameters.entities ∧
      final = plan.addAll (model.networkRequests ++
        (created.map Pending.request ++ model.finalRequests)) := by
  obtain ⟨transcript, result, last, hruns, hbuilt⟩ :=
    model.follows_build.exists_runs Plan.engine plan
  have hsame := hruns.outcome_eq.symm.trans hbuild
  obtain ⟨rfl, rfl⟩ := Prod.mk.inj hsame
  cases hbuilt with
  | @finished xs resolution course =>
    obtain ⟨all, created, hspecs, hperm, -, hgranted⟩ := course.exists_created
    refine ⟨created, ?_, ?_⟩
    · rw [← (prepared_of_specs hspecs).parameters]
      exact hperm.map Pending.parameter
    · -- the plan has taken in what was granted, and a build that ends well was granted all of it
      obtain ⟨-, hlast⟩ := Plan.admits_of_answers hruns.answers
      rwa [List.filterMap_append, List.filterMap_append, Exchange.filterMap_granted?_map_grant,
        Exchange.filterMap_granted?_map_grant, hgranted] at hlast

/-- A build that comes to its end has added to its plan just the calls that the model stands for,
and has created each parameter of the model. -/
theorem calls_of_build {model : Model} {plan final : Plan} {report : BuildReport}
    (hbuild : outcome (model.build Plan.engine) plan = (.ok report, final)) :
    final.calls = plan.calls ++ model.compilation report.resolution.order ∧
      report.resolution.order.Perm model.parameters.names ∧ model.Counted report := by
  obtain ⟨transcript, result, last, hruns, hbuilt⟩ :=
    model.follows_build.exists_runs Plan.engine plan
  have hsame := hruns.outcome_eq.symm.trans hbuild
  obtain ⟨rfl, rfl⟩ := Prod.mk.inj hsame
  cases hbuilt with
  | @finished xs resolution course =>
    -- what was created in the rounds is all that there is, in an order of its own
    obtain ⟨all, created, hspecs, hperm, horder, hgranted⟩ := course.exists_created
    have hprepared := prepared_of_specs hspecs
    have hentities : ∀ p ∈ created, p.parameter ∈ model.parameters.entities :=
      fun p hp => hprepared.mem_entities (hperm.subset hp)
    have hnames : resolution.order.Perm model.parameters.names := by
      rw [horder, ← hprepared.names_eq]
      exact hperm.map Pending.name
    refine ⟨?_, hnames, ?_⟩
    · obtain ⟨-, hlast⟩ := Plan.admits_of_answers hruns.answers
      rw [List.filterMap_append, List.filterMap_append, Exchange.filterMap_granted?_map_grant,
        Exchange.filterMap_granted?_map_grant, hgranted] at hlast
      -- a plan records what it grants: the calls are those of the requests, phase by phase
      calc
        last.calls = plan.calls ++ (model.networkRequests ++
            (created.map Pending.request ++ model.finalRequests)).map ofRequest := by
          rw [hlast, Plan.calls_addAll]
        _ = plan.calls ++ (model.networkRequests.map ofRequest ++
            (model.parameterCalls resolution.order ++ model.finalRequests.map ofRequest)) := by
          rw [List.map_append, List.map_append, map_ofRequest_pending model hentities, horder]
        _ = plan.calls ++ model.compilation resolution.order := by
          rw [map_ofRequest_networkRequests, map_ofRequest_finalRequests, compilation]
          simp only [List.append_assoc]
    · exact {
        nodes := rfl
        edges := rfl
        parameters := by
          have hlength := hnames.length_eq
          rwa [Collection.names, List.length_map] at hlength
        recorders := rfl
        outputs := rfl
        constraints := by
          rw [← map_ofRequest_limitRequests, List.length_map]
          rfl }

/-- A lake that a canal in two bands drains. What is recorded goes to a file beside the model, and
to one elsewhere. -/
def lake : Document :=
  .mapping [
    ("timestepper", .mapping [("start", .text "2020-01-01"), ("end", .text "2020-01-31"),
      ("timestep", .number (.integer 1))]),
    ("nodes", .sequence [
      .mapping [("type", .text "Aggregated"), ("name", .text "bands"),
        ("nodes", .texts ["canal.step-0", "canal.step-1"]),
        ("factors", .sequence [.number (.integer 1), .number (.integer 3)])],
      .mapping [("type", .text "Storage"), ("name", .text "lake"), ("cost", .text "net"),
        ("initial_volume", .number (.integer 40)), ("max_volume", .number (.integer 60))],
      .mapping [("type", .text "PiecewiseLink"), ("name", .text "canal"),
        ("steps", .sequence [.mapping [("max_flow", .text "net")], .mapping []])],
      .mapping [("type", .text "Output"), ("name", .text "sea")]]),
    ("edges", .sequence [
      .mapping [("from_node", .text "lake"), ("to_node", .text "canal")],
      .mapping [("from_node", .text "canal.step-0"), ("to_node", .text "sea")]]),
    ("parameters", .sequence [
      .mapping [("type", .text "Negative"), ("name", .text "net"), ("parameter", .text "rain")],
      .mapping [("type", .text "DataFrame"), ("name", .text "rain"), ("url", .text "rain.csv"),
        ("column", .text "mm")]]),
    ("recorders", .sequence [
      .mapping [("type", .text "NodeFlow"), ("name", .text "flow"), ("node", .text "canal")]]),
    ("outputs", .sequence [
      .mapping [("type", .text "CSV"), ("name", .text "daily"),
        ("filename", .text "out/daily.csv")],
      .mapping [("type", .text "HDF5"), ("name", .text "archive"),
        ("filename", .text "/data/lake.h5")]])]

/-- The plan of the lake, line by line, on top of a node that was there before. -/
def lakeLines : List String := [
  "add_node spring (input)",
  "add_node lake (storage, initial volume 40)",
  "add_node canal.step-0 (link)",
  "add_node canal.step-1 (link)",
  "add_node sea (output)",
  "add_aggregated_node bands [canal.step-0, canal.step-1] factors [1, 3]",
  "connect lake -> canal.step-0",
  "connect lake -> canal.step-1",
  "connect canal.step-0 -> sea",
  "create_parameter rain (DataFrame)",
  "create_parameter net (Negative)",
  "create_recorder flow (NodeFlow)",
  "create_output daily (CSV) -> models/lake/out/daily.csv",
  "create_output archive (HDF5) -> /data/lake.h5",
  "set_node_cost lake = parameter \"net\"",
  "set_node_constraint lake max_volume = 60",
  "set_node_constraint canal.step-0 max_flow = parameter \"net\""]

theorem calls_of_build_lake :
    ∃ loaded model plan report final, load? .strict lake = .ok loaded ∧
      model = { loaded with path := some "models/lake" } ∧
      plan = (Plan.new []).add (.addNode "spring" .input none) ∧
      outcome (model.build Plan.engine) plan = (.ok report, final) ∧
      final.calls = plan.calls ++ model.compilation report.resolution.order ∧
      report.resolution.order.Perm model.parameters.names ∧ model.Counted report ∧
      model.outputs.entities.map model.outputFile =
        ["models/lake/out/daily.csv", "/data/lake.h5"] ∧
      final.calls.map Call.line = lakeLines := by
  let plan := (Plan.new []).add (.addNode "spring" .input none)
  have hlines : ((load? .strict lake).toOption.bind fun loaded =>
      let model : Model := { loaded with path := some "models/lake" }
      match outcome (model.build Plan.engine) plan with
      | (.ok _, final) =>
        some (model.outputs.entities.map model.outputFile, final.calls.map Call.line)
      | (.error _, _) => none) =
        some (["models/lake/out/daily.csv", "/data/lake.h5"], lakeLines) := by decide +kernel
  obtain ⟨loaded, hload, hend⟩ := bind_toOption_eq_some_iff.mp hlines
  dsimp only at hend
  split at hend
  · rename_i report final hbuild
    obtain ⟨hfiles, hcalls⟩ := Prod.mk.inj (Option.some.inj hend)
    obtain ⟨hadded, horder, hcounted⟩ := calls_of_build hbuild
    exact ⟨loaded, _, plan, report, final, hload, rfl, rfl, hbuild, hadded, horder, hcounted,
      hfiles, hcalls⟩
  · cases hend

end Model

end FlowPlan
