import FlowPlan.Engine.Basic

/-!
Network nodes, and what each of them asks of an engine. A node need not be a single engine node: a
piecewise link is one link for each of its steps, and an aggregated node only groups other nodes.
-/

namespace FlowPlan

structure FlowNode where
  name : String
  comment : Option String
  cost : Option Quantity
  minFlow : Option Quantity
  maxFlow : Option Quantity
deriving BEq, DecidableEq

structure StorageNode where
  name : String
  comment : Option String
  cost : Option Quantity
  initialVolume : Float
  minVolume : Option Quantity
  maxVolume : Option Quantity
deriving BEq, DecidableEq

structure CatchmentNode where
  name : String
  comment : Option String
  cost : Option Quantity
  flow : Option Quantity
deriving BEq, DecidableEq

/-- A bound on the combined flow of other nodes; with factors, their flows also keep to those
proportions. -/
structure AggregatedNode where
  name : String
  comment : Option String
  members : List String
  factors : Option (List Float)
  minFlow : Option Quantity
  maxFlow : Option Quantity
deriving BEq, DecidableEq

structure PiecewiseStep where
  cost : Option Quantity
  maxFlow : Option Quantity
deriving BEq, DecidableEq

/-- A link whose flow is split over steps with a cost and a capacity of their own. -/
structure PiecewiseLink where
  name : String
  comment : Option String
  steps : List PiecewiseStep
deriving BEq, DecidableEq

namespace PiecewiseLink

def stepName (link : PiecewiseLink) (index : Nat) : String :=
  link.name ++ ".step-" ++ Decimal.digitText index

def stepNames (link : PiecewiseLink) : List String :=
  (List.range link.steps.length).map link.stepName

end PiecewiseLink

inductive Node where
  | input (node : FlowNode)
  | link (node : FlowNode)
  | output (node : FlowNode)
  | storage (node : StorageNode)
  | catchment (node : CatchmentNode)
  | aggregated (node : AggregatedNode)
  | piecewiseLink (node : PiecewiseLink)
deriving BEq, DecidableEq

inductive Constraint where
  | cost (value : Quantity)
  | bound (bound : Bound) (value : Quantity)

namespace Constraint

def value : Constraint → Quantity
  | .cost value => value
  | .bound _ value => value

def request (node : String) : Constraint → Request
  | .cost value => .setCost node value
  | .bound limit value => .setBound node limit value

def ofCost (value : Option Quantity) : List Constraint :=
  (value.map Constraint.cost).toList

def ofBound (limit : Bound) (value : Option Quantity) : List Constraint :=
  (value.map (Constraint.bound limit)).toList

end Constraint

namespace Node

def name : Node → String
  | input node => node.name
  | link node => node.name
  | output node => node.name
  | storage node => node.name
  | catchment node => node.name
  | aggregated node => node.name
  | piecewiseLink node => node.name

def comment : Node → Option String
  | input node => node.comment
  | link node => node.comment
  | output node => node.comment
  | storage node => node.comment
  | catchment node => node.comment
  | aggregated node => node.comment
  | piecewiseLink node => node.comment

def kind : Node → NodeKind
  | input _ => .input
  | link _ => .link
  | output _ => .output
  | storage _ => .storage
  | catchment _ => .input
  | aggregated _ => .aggregated
  | piecewiseLink _ => .link

def initialVolume : Node → Option Float
  | storage node => some node.initialVolume
  | _ => none

/-- The engine nodes that stand for the node. An aggregated node has none, since it is made of
others. -/
def engineNodes : Node → List (String × NodeKind)
  | aggregated _ => []
  | piecewiseLink node => node.stepNames.map fun name => (name, .link)
  | node => [(node.name, node.kind)]

def connectors : Node → List String
  | piecewiseLink node => node.stepNames
  | node => [node.name]

/-- Costs and bounds in the order they are set. A step has its cost, then its capacity. -/
def constraints : Node → List Constraint
  | input node => ofFlowNode node
  | link node => ofFlowNode node
  | output node => ofFlowNode node
  | storage node =>
    Constraint.ofCost node.cost ++ Constraint.ofBound .minVolume node.minVolume ++
      Constraint.ofBound .maxVolume node.maxVolume
  | catchment node =>
    Constraint.ofCost node.cost ++ Constraint.ofBound .minFlow node.flow ++
      Constraint.ofBound .maxFlow node.flow
  | aggregated node =>
    Constraint.ofBound .minFlow node.minFlow ++ Constraint.ofBound .maxFlow node.maxFlow
  | piecewiseLink node =>
    node.steps.flatMap fun step =>
      Constraint.ofCost step.cost ++ Constraint.ofBound .maxFlow step.maxFlow
where
  ofFlowNode (node : FlowNode) : List Constraint :=
    Constraint.ofCost node.cost ++ Constraint.ofBound .minFlow node.minFlow ++
      Constraint.ofBound .maxFlow node.maxFlow

def engineConstraints : Node → List (String × Constraint)
  | piecewiseLink node =>
    node.steps.zipIdx.flatMap fun (step, index) =>
      (Constraint.ofCost step.cost ++ Constraint.ofBound .maxFlow step.maxFlow).map
        fun constraint => (node.stepName index, constraint)
  | node => node.constraints.map fun constraint => (node.name, constraint)

def parameterReferences (node : Node) : List String :=
  Quantity.references (node.constraints.map Constraint.value)

end Node

end FlowPlan
