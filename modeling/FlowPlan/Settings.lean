import FlowPlan.Engine.Plan
import FlowPlan.Strictness
import FlowPlan.Toml.Reader

namespace FlowPlan

structure Settings where
  strictness : Strictness
  /-- The solver of runs that ask for none. -/
  defaultSolver : String
  solvers : List String

namespace Settings

def standard : Settings where
  strictness := .strict
  defaultSolver := "clp"
  solvers := Plan.defaultSolvers

def strictness? (name : String) : Option Strictness :=
  [Strictness.strict, .permissive].find? fun strictness => strictness.label == name

/-- Reads a strictness: its name, or its name as the only key of a table, with nothing in it. -/
def readStrictness : Document → Option Strictness
  | .text name => strictness? name
  | .mapping [(name, .mapping [])] => strictness? name
  | .mapping [(name, .sequence [])] => strictness? name
  | _ => none

def readText : Document → Option String
  | .text value => some value
  | _ => none

def readTexts : Document → Option (List String)
  | .sequence items => items.mapM readText
  | _ => none

def set (settings : Settings) : String × Document → Option Settings
  | ("strictness", value) => do return { settings with strictness := ← readStrictness value }
  | ("default_solver", value) => do return { settings with defaultSolver := ← readText value }
  | ("solvers", value) => do return { settings with solvers := ← readTexts value }
  | _ => none

/-- Reads settings; those that are not given are the standard ones. -/
def read (text : String) : Except ModelError Settings :=
  match (Toml.read? text).bind fun fields => fields.foldlM set standard with
  | some settings => .ok settings
  | none => .error .notSettings

def toDocument (settings : Settings) : Document :=
  .mapping [
    ("strictness", .text settings.strictness.label),
    ("default_solver", .text settings.defaultSolver),
    ("solvers", .texts settings.solvers)]

end Settings

end FlowPlan
