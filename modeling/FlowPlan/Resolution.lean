import FlowPlan.Collection
import FlowPlan.Log
import FlowPlan.Parameter.Entity

/-!
Creating parameters that read each other in any order. Each round offers every parameter that is
not created yet; the engine turns down those that read a missing one, and they wait for the next
round. A round that creates nothing ends the attempt.
-/

namespace FlowPlan

abbrev Build (σ : Type) :=
  ExceptT ModelError (StateT σ Logged)

namespace Engine

variable {σ : Type}

def ask (engine : Engine σ) (request : Request) : Build σ Answer := do
  let (answer, state) := engine.answer request (← get)
  set state
  return answer

/-- Puts a request to the engine; a refusal is an error of the given phase. -/
def demand (engine : Engine σ) (phase : BuildPhase) (entity : String) (request : Request) :
    Build σ Unit := do
  match ← engine.ask request with
  | .ok () => return ()
  | .error source => throw (.engine phase entity source)

end Engine

structure Resolution where
  rounds : Nat
  /-- The names of the parameters in the order of creation. -/
  order : List String
deriving DecidableEq

namespace Resolution

variable {σ : Type}

structure Pending where
  parameter : Parameter
  spec : ComponentSpec

namespace Pending

def request (pending : Pending) : Request :=
  .createParameter pending.parameter.name pending.parameter.typeName pending.spec

end Pending

/-- What a round came to: the parameters that wait, and the names of those that were created. -/
structure Round where
  deferred : List Pending
  created : List String

def offer (engine : Engine σ) : List Pending → Build σ Round
  | [] => return { deferred := [], created := [] }
  | pending :: rest => do
    match ← engine.ask pending.request with
    | .ok () =>
      Logged.note .trace ("Created parameter \"" ++ pending.parameter.name ++ "\"")
      let round ← offer engine rest
      return { round with created := pending.parameter.name :: round.created }
    -- the only refusal that a later round can make up for
    | .error (.dependencyNotFound _ missing) =>
      Logged.note .trace ("Deferred parameter \"" ++ pending.parameter.name ++ "\" until \"" ++
        missing ++ "\" exists")
      let round ← offer engine rest
      return { round with deferred := pending :: round.deferred }
    | .error source => throw (.engine .parameters pending.parameter.name source)

def undeclared (parameters : Collection Parameter) (names : List String) : List String :=
  names.filter fun name => !parameters.contains name

/-- The undeclared names that some parameters read, each once, in order of first occurrence. -/
def missingNames (parameters : Collection Parameter) (stuck : List Parameter) : List String :=
  (undeclared parameters (stuck.flatMap Parameter.parameterReferences)).foldl
    (fun names name => if names.contains name then names else names ++ [name]) []

/-- One pass over the stuck parameters: those that read a broken one become broken. -/
def spread (stuck : List Parameter) (broken : List String) : List String :=
  stuck.foldl
    (fun broken p =>
      if !broken.contains p.name && p.parameterReferences.any broken.contains then
        broken ++ [p.name]
      else broken)
    broken

/-- Passes until nothing changes; each pass that changes something adds one of the stuck
parameters, so `fuel` passes are enough when there are no more of those. -/
def closure (stuck : List Parameter) : Nat → List String → List String
  | 0, broken => broken
  | fuel + 1, broken =>
    let next := spread stuck broken
    if next.length = broken.length then broken else closure stuck fuel next

/-- Why parameters are stuck: those that lead to an undeclared name are told apart from the others,
which wait for each other. -/
def diagnose (parameters : Collection Parameter) (stuck : List Parameter) : ModelError :=
  let missing := missingNames parameters stuck
  if missing.isEmpty then .cyclicDependency (stuck.map Parameter.name)
  else
    let first := stuck.filter fun p => !(undeclared parameters p.parameterReferences).isEmpty
    -- one pass for each stuck parameter is enough
    let broken := closure stuck stuck.length (first.map Parameter.name)
    let (dependent, cyclic) := stuck.partition fun p => broken.contains p.name
    .unresolvedReference (dependent.map Parameter.name) missing (cyclic.map Parameter.name)

/-- Rounds until nothing is pending. -/
def runRounds (engine : Engine σ) (parameters : Collection Parameter) (sofar : Resolution)
    (pending : List Pending) : Build σ Resolution :=
  match pending with
  | [] => return sofar
  | first :: rest => do
    let pending := first :: rest
    let round ← offer engine pending
    let next : Resolution :=
      { rounds := sofar.rounds + 1, order := sofar.order ++ round.created }
    Logged.note .debug ("Resolution round " ++ toString next.rounds ++ ": created " ++
      toString (pending.length - round.deferred.length) ++ ", deferred " ++
      toString round.deferred.length)
    -- a round that creates nothing is not followed by one that does
    if round.deferred.length < (first :: rest).length then
      runRounds engine parameters next round.deferred
    else throw (diagnose parameters (round.deferred.map Pending.parameter))
termination_by pending.length
decreasing_by assumption

def specs (context : SpecContext) (parameters : Collection Parameter) :
    Except ModelError (List Pending) :=
  parameters.entities.mapM fun parameter => do
    return { parameter, spec := ← parameter.spec context }

def resolve (engine : Engine σ) (context : SpecContext) (parameters : Collection Parameter) :
    Build σ Resolution := do
  let pending ← specs context parameters
  runRounds engine parameters { rounds := 0, order := [] } pending

end Resolution

end FlowPlan
