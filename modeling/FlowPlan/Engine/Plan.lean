import FlowPlan.Engine.Basic

/-!
An engine that simulates nothing: it checks that every name is declared once and before its use,
and records the requests it accepts.
-/

namespace FlowPlan

inductive Call where
  | addNode (name : String) (kind : NodeKind) (initialVolume : Option Float)
  | addAggregatedNode (name : String) (members : List String) (factors : Option (List Float))
  | connect (source target : String)
  | setCost (node : String) (value : Quantity)
  | setBound (node : String) (bound : Bound) (value : Quantity)
  | createParameter (name kind : String)
  | createRecorder (name kind : String)
  | createOutput (name kind : String) (files : List String)
  | run (solver : String) (start stop : Date) (timestep : UInt32)

namespace Call

def ofRequest : Request → Call
  | .addNode name kind initialVolume => .addNode name kind initialVolume
  | .addAggregatedNode name members factors => .addAggregatedNode name members factors
  | .connect source target => .connect source target
  | .setCost node value => .setCost node value
  | .setBound node bound value => .setBound node bound value
  | .createParameter name kind _ => .createParameter name kind
  | .createRecorder name kind _ => .createRecorder name kind
  | .createOutput name kind spec => .createOutput name kind spec.files
  | .run solver start stop timestep => .run solver start stop timestep

def isRun : Call → Bool
  | .run .. => true
  | _ => false

/-- The call on one line. -/
def line : Call → String
  | .addNode name kind (some volume) =>
    "add_node " ++ name ++ " (" ++ kind.phrase ++ ", initial volume " ++ plain volume ++ ")"
  | .addNode name kind none => "add_node " ++ name ++ " (" ++ kind.phrase ++ ")"
  | .addAggregatedNode name members factors =>
    "add_aggregated_node " ++ name ++ " [" ++ ", ".intercalate members ++ "]" ++
      (match factors with
        | some factors => " factors [" ++ ", ".intercalate (factors.map plain) ++ "]"
        | none => "")
  | .connect source target => "connect " ++ source ++ " -> " ++ target
  | .setCost node value => "set_node_cost " ++ node ++ " = " ++ value.phrase
  | .setBound node bound value =>
    "set_node_constraint " ++ node ++ " " ++ bound.label ++ " = " ++ value.phrase
  | .createParameter name kind => "create_parameter " ++ name ++ " (" ++ kind ++ ")"
  | .createRecorder name kind => "create_recorder " ++ name ++ " (" ++ kind ++ ")"
  | .createOutput name kind files =>
    "create_output " ++ name ++ " (" ++ kind ++ ")" ++
      "".intercalate (files.map fun file => " -> " ++ file)
  | .run solver start stop timestep =>
    "run " ++ solver ++ " " ++ start.text ++ ".." ++ stop.text ++ " every " ++
      toString timestep.toNat ++ " day(s)"
where
  plain : Float → String :=
    Decimal.Layout.plain.text

/-- The call under the name of its kind. -/
def toDocument : Call → Document
  | .addNode name kind initialVolume =>
    tagged "AddNode" [("name", .text name), ("kind", .text kind.label),
      ("initial_volume", .optional .real initialVolume)]
  | .addAggregatedNode name members factors =>
    tagged "AddAggregatedNode" [("name", .text name), ("nodes", .texts members),
      ("factors", .optional (fun xs => .sequence (xs.map .real)) factors)]
  | .connect source target =>
    tagged "Connect" [("from_node", .text source), ("to_node", .text target)]
  | .setCost node value =>
    tagged "SetNodeCost" [("node", .text node), ("value", value.toDocument)]
  | .setBound node bound value =>
    tagged "SetNodeConstraint" [("node", .text node), ("bound", .text bound.label),
      ("value", value.toDocument)]
  | .createParameter name kind =>
    tagged "CreateParameter" [("name", .text name), ("kind", .text kind)]
  | .createRecorder name kind =>
    tagged "CreateRecorder" [("name", .text name), ("kind", .text kind)]
  | .createOutput name kind files =>
    tagged "CreateOutput" [("name", .text name), ("kind", .text kind), ("files", .texts files)]
  | .run solver start stop timestep =>
    tagged "Run" [("solver", .text solver), ("start", .text start.text), ("end", .text stop.text),
      ("timestep_days", .number (.integer timestep.toNat))]
where
  tagged (kind : String) (fields : Fields) : Document :=
    .mapping [(kind, .mapping fields)]

end Call

/-- The plan of a build: what exists, in the order of creation, and the calls that made it. -/
structure Plan where
  nodes : List (String × NodeKind)
  parameters : List (String × String)
  recorders : List (String × String)
  outputs : List (String × String)
  /-- The solvers that a run accepts. -/
  solvers : List String
  calls : List Call

namespace Plan

def new (solvers : List String) : Plan where
  nodes := []
  parameters := []
  recorders := []
  outputs := []
  solvers := solvers
  calls := []

def defaultSolvers : List String :=
  ["clp", "highs"]

def nodeKind? (plan : Plan) (name : String) : Option NodeKind :=
  plan.nodes.lookup name

def hasParameter (plan : Plan) (name : String) : Bool :=
  (plan.parameters.map (·.1)).contains name

def parameterNames (plan : Plan) : List String :=
  plan.parameters.map (·.1)

def hasRun (plan : Plan) : Bool :=
  plan.calls.any Call.isRun

def requireNode (plan : Plan) (name : String) : Except EngineError NodeKind :=
  match plan.nodeKind? name with
  | some kind => .ok kind
  | none => .error (.unknownNode name)

def requireNewNode (plan : Plan) (name : String) : Except EngineError Unit :=
  match plan.nodeKind? name with
  | some _ => .error (.duplicateName "node" name)
  | none => .ok ()

def requireQuantity (plan : Plan) (value : Quantity) : Except EngineError Unit :=
  match value.parameter? with
  | some name => if plan.hasParameter name then .ok () else .error (.unknownParameter name)
  | none => .ok ()

def requireNew (taken : List (String × String)) (kind name : String) : Except EngineError Unit :=
  if (taken.map (·.1)).contains name then .error (.duplicateName kind name) else .ok ()

def missingParameter? (plan : Plan) (spec : ComponentSpec) : Option String :=
  spec.parameterReferences.find? fun name => !plan.hasParameter name

def requireMembers (plan : Plan) (name : String) : List String → Except EngineError Unit
  | [] => .ok ()
  | member :: rest => do
    if (← plan.requireNode member) = .aggregated then
      .error (.other ("aggregated node \"" ++ name ++ "\" cannot contain aggregated node \"" ++
        member ++ "\""))
    plan.requireMembers name rest

def requireFactors (name : String) (members : List String) :
    Option (List Float) → Except EngineError Unit
  | none => .ok ()
  | some factors =>
    if factors.length = members.length then .ok ()
    else .error (.other ("aggregated node \"" ++ name ++ "\" has " ++ toString factors.length ++
      " factor(s) for " ++ toString members.length ++ " node(s)"))

def requireConnectable (plan : Plan) (name : String) : Except EngineError Unit := do
  if (← plan.requireNode name) = .aggregated then
    .error (.other ("aggregated node \"" ++ name ++ "\" cannot be connected"))

/-- The nodes that a recorder reads have to exist; volumes are recorded of storage nodes only. -/
def requireRecorded (plan : Plan) (name kind : String) : List String → Except EngineError Unit
  | [] => .ok ()
  | node :: rest => do
    let nodeKind ← plan.requireNode node
    if kind = "StorageVolume" ∧ nodeKind ≠ .storage then
      .error (.other ("recorder \"" ++ name ++ "\" needs a storage node but \"" ++ node ++
        "\" is a " ++ nodeKind.phrase ++ " node"))
    plan.requireRecorded name kind rest

def acceptsSolver (plan : Plan) (solver : String) : Bool :=
  plan.solvers.any fun known => known.toLower == solver.toLower

/-- Why a request is refused, if it is. -/
def check (plan : Plan) : Request → Except EngineError Unit
  | .addNode name kind _ => do
    -- a group has members, which this request does not give
    if kind = .aggregated then
      .error (.other ("aggregated node \"" ++ name ++ "\" must be created from its member nodes"))
    plan.requireNewNode name
  | .addAggregatedNode name members factors => do
    plan.requireNewNode name
    plan.requireMembers name members
    requireFactors name members factors
  | .connect source target => do
    plan.requireConnectable source
    plan.requireConnectable target
  | .setCost node value => do
    if (← plan.requireNode node) = .aggregated then
      .error (.other ("cost cannot be set on aggregated node \"" ++ node ++ "\""))
    plan.requireQuantity value
  | .setBound node bound value => do
    let kind ← plan.requireNode node
    -- volumes are bounded in storages, flows everywhere else
    if bound.isVolume ≠ (kind == .storage) then
      .error (.other (bound.label ++ " cannot be set on " ++ kind.phrase ++ " node \"" ++ node ++
        "\""))
    plan.requireQuantity value
  | .createParameter name _ spec => do
    requireNew plan.parameters "parameter" name
    match plan.missingParameter? spec with
    -- put off, not refused: the missing parameter may still be created
    | some missing => .error (.dependencyNotFound name missing)
    | none => spec.nodeReferences.forM fun node => discard (plan.requireNode node)
  | .createRecorder name kind spec => do
    requireNew plan.recorders "recorder" name
    plan.requireRecorded name kind spec.nodeReferences
    match plan.missingParameter? spec with
    | some missing => .error (.unknownParameter missing)
    | none => .ok ()
  | .createOutput name _ _ => requireNew plan.outputs "output" name
  | .run solver _ _ _ =>
    if plan.acceptsSolver solver then .ok () else .error (.unsupportedSolver solver)

def add (plan : Plan) (request : Request) : Plan :=
  let logged := { plan with calls := plan.calls ++ [Call.ofRequest request] }
  match request with
  | .addNode name kind _ => { logged with nodes := plan.nodes ++ [(name, kind)] }
  | .addAggregatedNode name _ _ => { logged with nodes := plan.nodes ++ [(name, .aggregated)] }
  | .createParameter name kind _ => { logged with parameters := plan.parameters ++ [(name, kind)] }
  | .createRecorder name kind _ => { logged with recorders := plan.recorders ++ [(name, kind)] }
  | .createOutput name kind _ => { logged with outputs := plan.outputs ++ [(name, kind)] }
  | _ => logged

def answer (request : Request) (plan : Plan) : Answer × Plan :=
  match plan.check request with
  | .ok () => (.ok (), plan.add request)
  | .error e => (.error e, plan)

def engine : Engine Plan where
  answer := answer

end Plan

end FlowPlan
