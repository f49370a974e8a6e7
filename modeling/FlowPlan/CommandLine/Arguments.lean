namespace FlowPlan.CommandLine

inductive Command where
  /-- Builds a model and runs it. -/
  | run (model : String) (solver : Option String) (outputFile : Option String)
  /-- Loads a model only. -/
  | check (model : String)
  /-- Builds a model and shows the calls. -/
  | plan (model : String) (outputFile : Option String)
deriving DecidableEq

structure Invocation where
  config : Option String
  permissive : Bool
  /-- How much is logged. -/
  verbosity : Nat
  command : Command
deriving DecidableEq

inductive Stop where
  /-- They are wrong. -/
  | usage
  | help
  | version
deriving DecidableEq

inductive Verb where
  | run
  | check
  | plan
deriving DecidableEq

def Verb.ofName? : String → Option Verb
  | "run" => some .run
  | "check" => some .check
  | "plan" => some .plan
  | _ => none

inductive Key where
  | config
  | solver
  | outputFile
deriving DecidableEq

def Key.ofName? (verb : Option Verb) : String → Option Key
  | "config" => some .config
  | "solver" => if verb = some .run then some .solver else none
  | "output-h5" => if verb = some .run ∨ verb = some .plan then some .outputFile else none
  | _ => none

def Key.isPath : Key → Bool
  | .solver => false
  | _ => true

structure Given where
  values : List (Key × String)
  permissive : Bool
  verbosity : Nat
  model : Option String

namespace Given

def nothing : Given where
  values := []
  permissive := false
  verbosity := 0
  model := none

def set (key : Key) (value : String) (given : Given) : Except Stop Given :=
  if (given.values.lookup key).isSome ∨ (key.isPath ∧ value.isEmpty) then .error .usage
  else .ok { given with values := (key, value) :: given.values }

def setPermissive (given : Given) : Except Stop Given :=
  if given.permissive then .error .usage else .ok { given with permissive := true }

def addVerbosity (given : Given) : Given :=
  { given with verbosity := given.verbosity + 1 }

def setModel (path : String) (given : Given) : Except Stop Given :=
  if given.model.isSome ∨ path.isEmpty then .error .usage
  else .ok { given with model := some path }

end Given

structure Reading where
  verb : Option Verb
  /-- What stood before the verb. -/
  outer : Given
  given : Given
  /-- An option that waits for its value. -/
  pending : Option Key
  /-- No more options follow. -/
  escaped : Bool

namespace Reading

def start : Reading where
  verb := none
  outer := .nothing
  given := .nothing
  pending := none
  escaped := false

def update (change : Given → Except Stop Given) (r : Reading) : Except Stop Reading := do
  return { r with given := ← change r.given }

/-- Reads an option by its long name, with a value behind an equals sign or without. -/
def long (name : String) (value : Option String) (r : Reading) : Except Stop Reading :=
  match Key.ofName? r.verb name, value with
  | some key, some value => r.update (Given.set key value)
  | some key, none => .ok { r with pending := some key }
  | none, some _ => .error .usage
  | none, none =>
    match name with
    | "permissive" => r.update Given.setPermissive
    | "verbose" => .ok { r with given := r.given.addVerbosity }
    | "help" => .error .help
    | "version" => .error (if r.verb.isNone then .version else .usage)
    | _ => .error .usage

def short : List Char → Reading → Except Stop Reading
  | [], r => .ok r
  | 'v' :: rest, r => short rest { r with given := r.given.addVerbosity }
  | 'h' :: _, _ => .error .help
  | 'V' :: _, r => .error (if r.verb.isNone then .version else .usage)
  | _ :: _, _ => .error .usage

/-- Reads an argument that is no option: the verb, and behind it the model. -/
def word (argument : String) (r : Reading) : Except Stop Reading :=
  match r.verb with
  | some _ => r.update (Given.setModel argument)
  | none =>
    match Verb.ofName? argument with
    | some verb =>
      if r.escaped then .error .usage
      else .ok { r with verb := some verb, outer := r.given, given := .nothing }
    | none => .error (if argument = "help" ∧ !r.escaped then .help else .usage)

def splitValue (option : List Char) : String × Option String :=
  let name := String.ofList (option.takeWhile (· ≠ '='))
  match option.dropWhile (· ≠ '=') with
  | _ :: value => (name, some (String.ofList value))
  | [] => (name, none)

/-- Reads one argument. A value that starts with a dash, other than the dash alone, needs an equals
sign in front of it. -/
def step (r : Reading) (argument : String) : Except Stop Reading :=
  if r.escaped then r.word argument
  else
    match r.pending, argument.toList with
    | some key, ['-'] => { r with pending := none }.update (Given.set key "-")
    | some _, '-' :: _ => .error .usage
    | some key, _ => { r with pending := none }.update (Given.set key argument)
    | none, ['-', '-'] => .ok { r with escaped := true }
    | none, '-' :: '-' :: option =>
      let (name, value) := splitValue option
      r.long name value
    | none, '-' :: letter :: letters => r.short (letter :: letters)
    | none, _ => r.word argument

/-- A value that is given on either side of the verb; the one behind it counts. -/
def value? (key : Key) (r : Reading) : Option String :=
  r.given.values.lookup key <|> r.outer.values.lookup key

def finish (r : Reading) : Except Stop Invocation :=
  match r.pending, r.verb, r.given.model with
  | none, some verb, some model =>
    .ok {
      config := r.value? .config
      permissive := r.given.permissive || r.outer.permissive
      verbosity := if r.given.verbosity = 0 then r.outer.verbosity else r.given.verbosity
      command := match verb with
        | .run => .run model (r.value? .solver) (r.value? .outputFile)
        | .check => .check model
        | .plan => .plan model (r.value? .outputFile) }
  | _, _, _ => .error .usage

end Reading

def read (arguments : List String) : Except Stop Invocation := do
  (← arguments.foldlM Reading.step Reading.start).finish

end FlowPlan.CommandLine
