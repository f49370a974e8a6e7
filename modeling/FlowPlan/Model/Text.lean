import FlowPlan.Json.Reader
import FlowPlan.Json.Printer
import FlowPlan.Model.Load
import FlowPlan.Yaml.Reader
import FlowPlan.Yaml.Writer

namespace FlowPlan

inductive TextFormat where
  | json
  | yaml
deriving DecidableEq

namespace TextFormat

def ofExtension? : String → Option TextFormat
  | "json" => some .json
  | "yaml" => some .yaml
  | "yml" => some .yaml
  | _ => none

def read (format : TextFormat) (text : String) : Except ModelError Document :=
  match format with
  | .json => (Json.read text).mapError .notJson
  | .yaml =>
    match Yaml.read? text with
    | some document => .ok document
    | none => .error .notYaml

end TextFormat

namespace Model

def loadText (format : TextFormat) (strictness : Strictness) (text : String) : Load Model := do
  load strictness (← format.read text)

/-- The model as text. JSON has no numbers that are not finite, and YAML has. -/
def text (format : TextFormat) (model : Model) : String :=
  match format with
  | .json => Json.pretty model.toDocument
  | .yaml => Yaml.write model.tree

end Model

end FlowPlan
