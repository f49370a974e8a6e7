import FlowPlan.CommandLine.Execute

namespace FlowPlan.CommandLine

def Invocation.paths (invocation : Invocation) : List String :=
  let model := match invocation.command with
    | .run model _ _ => model
    | .check model => model
    | .plan model _ => model
  invocation.config.toList ++ [model]

def Invocation.logLevel (invocation : Invocation) : LogLevel :=
  match invocation.verbosity with
  | 0 => .warn
  | 1 => .info
  | 2 => .debug
  | _ => .trace

def failureOf : IO.Error → ReadFailure
  | .noFileOrDirectory _ _ _ => .notFound
  | .inappropriateType _ code _ => wrongKind code
  | e => .other (toString e)
where
  /-- The number tells a directory from what should be one. -/
  wrongKind (code : UInt32) : ReadFailure :=
    if code = 21 then .isADirectory else .notADirectory

def readFile (path : String) : IO (Except ReadFailure String) := do
  try
    return decodeText (← IO.FS.readBinFile path)
  catch e =>
    return .error (failureOf e)

def readFiles (paths : List String) : IO Files := do
  let contents ← paths.mapM fun path => do return (path, ← readFile path)
  return fun path => (contents.lookup path).getD (.error .notFound)

def workingDirectory : IO WorkingDirectory := do
  try
    return .ok (← IO.currentDir).toString
  catch e =>
    return .error (failureOf e)

def deliver (outcome : Outcome) : IO UInt32 := do
  IO.print outcome.output
  IO.eprint outcome.errors
  return outcome.status.toUInt32

end FlowPlan.CommandLine

open FlowPlan FlowPlan.CommandLine in
def main (arguments : List String) : IO UInt32 := do
  match CommandLine.read arguments with
  | .error stop => deliver stop.outcome
  | .ok invocation =>
    let files ← readFiles invocation.paths
    let directory ← workingDirectory
    let executed := execute { files, directory } invocation
    for line in Logged.lines invocation.logLevel executed.log do
      IO.eprintln line
    deliver executed.value
