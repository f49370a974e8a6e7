import FlowPlan.Model.Basic
import FlowPlan.Resolution

/-!
Building a model into an engine, in phases: nodes, edges, parameters, recorders, outputs, and last
the costs and bounds of the nodes, which may name any parameter. The first failure ends the build.
-/

namespace FlowPlan

structure BuildReport where
  nodes : Nat
  edges : Nat
  resolution : Resolution
  recorders : Nat
  outputs : Nat
  constraints : Nat

namespace BuildReport

def parameters (report : BuildReport) : Nat :=
  report.resolution.order.length

end BuildReport

namespace Node

def requests (node : Node) : List Request :=
  node.engineNodes.map fun (name, kind) => .addNode name kind node.initialVolume

def groupRequest? : Node → Option Request
  | aggregated node => some (.addAggregatedNode node.name node.members node.factors)
  | _ => none

end Node

namespace Model

variable {σ : Type}

def demandAll (engine : Engine σ) (phase : BuildPhase) (entity : String)
    (requests : List Request) : Build σ Unit :=
  requests.forM (engine.demand phase entity)

def createNodes (engine : Engine σ) (model : Model) : Build σ Unit := do
  model.nodes.entities.forM fun node => demandAll engine .nodes node.name node.requests
  model.nodes.entities.forM fun node =>
    demandAll engine .nodes node.name node.groupRequest?.toList
  Logged.note .debug ("Created " ++ toString model.nodes.size ++ " node(s), " ++
    toString (model.nodes.entities.filterMap Node.groupRequest?).length ++
    " of them aggregated")

def edgeRequests (model : Model) (edge : Edge) : List Request :=
  (model.connectors edge.source).flatMap fun source =>
    (model.connectors edge.target).map fun target => .connect source target

def createEdges (engine : Engine σ) (model : Model) : Build σ Unit := do
  model.edges.forM fun edge => demandAll engine .edges edge.label (model.edgeRequests edge)
  Logged.note .debug ("Created " ++ toString model.edges.length ++ " edge(s) as " ++
    toString (model.edges.flatMap model.edgeRequests).length ++ " connection(s)")

/-- What the engine needs to create a recorder: the nodes are those that the name stands for. -/
def recorderSpec (model : Model) (recorder : Recorder) : ComponentSpec :=
  { recorder.spec with
    nodeReferences := recorder.spec.nodeReferences.flatMap model.connectors }

def recorderRequest (model : Model) (recorder : Recorder) : Request :=
  .createRecorder recorder.name recorder.typeName (model.recorderSpec recorder)

def createRecorders (engine : Engine σ) (model : Model) : Build σ Unit := do
  model.recorders.entities.forM fun recorder =>
    engine.demand .recorders recorder.name (model.recorderRequest recorder)
  Logged.note .debug ("Created " ++ toString model.recorders.size ++ " recorder(s)")

def outputRequest (model : Model) (output : Output) : Request :=
  .createOutput output.name output.typeName (output.spec model.specContext)

def createOutputs (engine : Engine σ) (model : Model) : Build σ Unit := do
  model.outputs.entities.forM fun output =>
    engine.demand .outputs output.name (model.outputRequest output)
  Logged.note .debug ("Created " ++ toString model.outputs.size ++ " output(s)")

def constraintRequests (node : Node) : List Request :=
  node.engineConstraints.map fun (target, constraint) => constraint.request target

def constraintCount (model : Model) : Nat :=
  (model.nodes.entities.flatMap constraintRequests).length

def applyConstraints (engine : Engine σ) (model : Model) : Build σ Unit := do
  model.nodes.entities.forM fun node =>
    demandAll engine .constraints node.name (constraintRequests node)
  Logged.note .debug ("Applied " ++ toString model.constraintCount ++ " constraint(s) to " ++
    toString model.nodes.size ++ " node(s)")

/-- Builds a model into an engine. -/
def build (engine : Engine σ) (model : Model) : Build σ BuildReport := do
  model.createNodes engine
  model.createEdges engine
  -- parameters may read nodes, and what comes after them may read parameters
  let resolution ← Resolution.resolve engine model.specContext model.parameters
  Logged.note .debug ("Created " ++ toString resolution.order.length ++ " parameter(s) in " ++
    toString resolution.rounds ++ " round(s)")
  model.createRecorders engine
  model.createOutputs engine
  model.applyConstraints engine
  let report : BuildReport :=
    { nodes := model.nodes.size
      edges := model.edges.length
      resolution := resolution
      recorders := model.recorders.size
      outputs := model.outputs.size
      constraints := model.constraintCount }
  Logged.note .info ("Built model: " ++ toString report.nodes ++ " node(s), " ++
    toString report.edges ++ " edge(s), " ++ toString report.parameters ++ " parameter(s), " ++
    toString report.recorders ++ " recorder(s), " ++ toString report.outputs ++ " output(s), " ++
    toString report.constraints ++ " constraint(s)")
  return report

def run (engine : Engine σ) (solver : String) (model : Model) : Build σ BuildReport := do
  let report ← model.build engine
  let timestepper := model.timestepper
  Logged.note .info ("Running " ++ toString timestepper.stepCount ++ " timestep(s) from " ++
    timestepper.start.text ++ " to " ++ timestepper.stop.text ++ " with " ++ solver)
  engine.demand .run solver
    (.run solver timestepper.start timestepper.stop timestepper.timestep)
  return report

end Model

end FlowPlan
