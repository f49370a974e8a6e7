import FlowPlan.Edge
import FlowPlan.Node.Entity
import FlowPlan.Output
import FlowPlan.Parameter.Entity
import FlowPlan.Recorder
import FlowPlan.Timestepper

namespace FlowPlan

structure Model where
  timestepper : Timestepper
  nodes : Collection Node
  edges : List Edge
  parameters : Collection Parameter
  recorders : Collection Recorder
  tables : Collection Table
  outputs : Collection Output
  /-- The directory that relative paths in the model start from. -/
  path : Option String
deriving BEq

namespace Model

def new (timestepper : Timestepper) : Model where
  timestepper := timestepper
  nodes := .empty
  edges := []
  parameters := .empty
  recorders := .empty
  tables := .empty
  outputs := .empty
  path := none

def specContext (model : Model) : SpecContext where
  tables := model.tables
  basePath := model.path

def addOutput (model : Model) (output : Output) : Except ModelError Model := do
  return { model with outputs := ← model.outputs.insert output }

/-- The engine nodes that a name stands for. A name that is not declared stands for itself. -/
def connectors (model : Model) (name : String) : List String :=
  match model.nodes.find? name with
  | some node => node.connectors
  | none => [name]

def tree (model : Model) : Document :=
  .mapping [
    ("timestepper", model.timestepper.toDocument),
    ("nodes", model.nodes.toDocument),
    ("edges", .sequence (model.edges.map Edge.toDocument)),
    ("parameters", model.parameters.toDocument),
    ("recorders", model.recorders.toDocument),
    ("tables", model.tables.toDocument),
    ("outputs", model.outputs.toDocument)]

/-- The model as a document. Numbers that are not finite become null. -/
def toDocument (model : Model) : Document :=
  model.tree.finite

end Model

end FlowPlan
