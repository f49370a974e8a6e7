import FlowPlan.Build
import FlowPlan.CommandLine.Arguments
import FlowPlan.Engine.Plan
import FlowPlan.Model.File
import FlowPlan.Settings

namespace FlowPlan.CommandLine

abbrev WorkingDirectory :=
  Except ReadFailure String

instance : Coe String WorkingDirectory := ⟨.ok⟩

structure Host where
  files : Files
  directory : WorkingDirectory

/-- What the program leaves behind: its exit status and what it wrote. -/
structure Outcome where
  status : Nat
  output : String
  errors : String
deriving DecidableEq

def helpText : String :=
  "Load, check and build flow network models\n\n" ++
  "Usage: hydronet [OPTIONS] <COMMAND>\n\n" ++
  "Commands:\n" ++
  "  run    Build a model and run it\n" ++
  "  check  Load and validate a model without building it\n" ++
  "  plan   Print the engine calls a build would make\n" ++
  "  help   Print this message or the help of the given subcommand(s)\n\n" ++
  "Options:\n" ++
  "      --config <CONFIG>  Settings file (TOML)\n" ++
  "      --permissive       Ignore unknown keys in the model instead of failing\n" ++
  "  -v, --verbose...       More logging; repeat for more detail\n" ++
  "  -h, --help             Print help\n" ++
  "  -V, --version          Print version\n"

def Stop.outcome : Stop → Outcome
  | .usage => { status := 2, output := "", errors := helpText }
  | .help => { status := 0, output := helpText, errors := "" }
  | .version => { status := 0, output := "hydronet 0.1.0\n", errors := "" }

def overrideName : String :=
  "cli-output"

def overrideOutput (path : String) : Output :=
  .hdf5 { name := overrideName, comment := none, filename := path }

/-- The path of a file as seen from the working directory, which only a relative one needs. -/
def Host.locate (host : Host) (path : String) : Except ModelError String :=
  if Path.isAbsolute path then .ok path
  else do
    let directory ← host.directory.mapError (.unreadable path)
    return Path.join directory path

/-- The settings of a settings file, or else the standard ones. -/
def startSettings (host : Host) : Option String → Load Settings
  | some path => do
    Logged.note .debug ("Reading settings from " ++ path)
    Settings.read (← host.files.require path)
  | none => pure .standard

def Invocation.settings (host : Host) (invocation : Invocation) : Load Settings := do
  let settings ← startSettings host invocation.config
  return if invocation.permissive then { settings with strictness := .permissive } else settings

def loadModel (host : Host) (strictness : Strictness) (path : String)
    (outputFile : Option String) : Load Model := do
  let model ← Model.loadFile host.files strictness path
  match outputFile with
  | some file => model.addOutput (overrideOutput (← host.locate file))
  | none => return model

def onPlan {α : Type} (settings : Settings) (build : Build Plan α) :
    Logged (Except ModelError α × Plan) :=
  build.run.run (Plan.new settings.solvers)

def planText (plan : Plan) : String :=
  String.join (plan.calls.map fun call => call.line ++ "\n")

def runText (path solver : String) (model : Model) (report : BuildReport) : String :=
  "Ran " ++ path ++ " (" ++ toString report.nodes ++ " node(s), " ++ toString report.parameters ++
    " parameter(s) in " ++ toString report.resolution.rounds ++ " round(s)) over " ++
    toString model.timestepper.stepCount ++ " timestep(s) with " ++ solver ++ "\n"

def checkText (path : String) (model : Model) : String :=
  path ++ " is valid\n" ++
    "  timesteps:  " ++ toString model.timestepper.stepCount ++ "\n" ++
    "  nodes:      " ++ toString model.nodes.size ++ "\n" ++
    "  edges:      " ++ toString model.edges.length ++ "\n" ++
    "  parameters: " ++ toString model.parameters.size ++ "\n" ++
    "  recorders:  " ++ toString model.recorders.size ++ "\n" ++
    "  tables:     " ++ toString model.tables.size ++ "\n" ++
    "  outputs:    " ++ toString model.outputs.size ++ "\n"

def noteParameters (model : Model) : Logged Unit :=
  model.parameters.entities.forM fun p =>
    Logged.note .debug ("Parameter " ++ p.name ++ " (" ++ p.typeName ++ ")")

/-- What the command `run` comes to: its report, and the plan as far as it got. -/
def runPlan (settings : Settings) (solver : Option String) (model : Model) :
    Logged (Except ModelError BuildReport × Plan) :=
  onPlan settings (model.run Plan.engine (solver.getD settings.defaultSolver))

/-- What the command `plan` comes to: the report of the build, and the plan as far as it got. -/
def buildPlan (settings : Settings) (model : Model) :
    Logged (Except ModelError BuildReport × Plan) :=
  onPlan settings (model.build Plan.engine)

def perform (host : Host) (settings : Settings) : Command → Load String
  | .run path solver outputFile => do
    let model ← loadModel host settings.strictness path outputFile
    let (result, _) ← runPlan settings solver model
    return runText path (solver.getD settings.defaultSolver) model (← result)
  | .check path => do
    let model ← loadModel host settings.strictness path none
    noteParameters model
    return checkText path model
  | .plan path outputFile => do
    let model ← loadModel host settings.strictness path outputFile
    let (result, plan) ← buildPlan settings model
    discard result
    return planText plan

def outcome : Except ModelError String → Outcome
  | .ok text => { status := 0, output := text, errors := "" }
  | .error e => { status := 1, output := "", errors := "Error: " ++ e.message ++ "\n" }

def execute (host : Host) (invocation : Invocation) : Logged Outcome := do
  let performed : Load String := do
    let settings ← invocation.settings host
    perform host settings invocation.command
  return outcome (← performed.run)

end FlowPlan.CommandLine
