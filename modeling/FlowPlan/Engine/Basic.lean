import FlowPlan.Quantity

namespace FlowPlan

inductive NodeKind where
  | input
  | link
  | output
  | storage
  /-- A group of other nodes whose combined flow is bounded. -/
  | aggregated
deriving DecidableEq

namespace NodeKind

def phrase : NodeKind → String
  | .input => "input"
  | .link => "link"
  | .output => "output"
  | .storage => "storage"
  | .aggregated => "aggregated"

def label : NodeKind → String
  | .input => "Input"
  | .link => "Link"
  | .output => "Output"
  | .storage => "Storage"
  | .aggregated => "Aggregated"

end NodeKind

inductive Bound where
  | minFlow
  | maxFlow
  | minVolume
  | maxVolume
deriving DecidableEq

namespace Bound

def label : Bound → String
  | .minFlow => "min_flow"
  | .maxFlow => "max_flow"
  | .minVolume => "min_volume"
  | .maxVolume => "max_volume"

def isVolume : Bound → Bool
  | .minFlow => false
  | .maxFlow => false
  | .minVolume => true
  | .maxVolume => true

end Bound

structure ComponentSpec where
  /-- The fields of the component, without its type. -/
  attributes : Fields
  /-- The parameters that it reads, in the order of its fields. -/
  parameterReferences : List String
  /-- The nodes that it reads. -/
  nodeReferences : List String
  /-- Its data files, seen from the working directory. -/
  files : List String

namespace ComponentSpec

def empty : ComponentSpec where
  attributes := []
  parameterReferences := []
  nodeReferences := []
  files := []

def toDocument (spec : ComponentSpec) : Document :=
  .mapping [
    ("attributes", .mapping spec.attributes),
    ("parameter_references", .texts spec.parameterReferences),
    ("node_references", .texts spec.nodeReferences),
    ("files", .texts spec.files)]

end ComponentSpec

inductive EngineError where
  /-- A parameter reads another one that does not exist, or not yet. -/
  | dependencyNotFound (parameter missing : String)
  | unknownNode (name : String)
  | unknownParameter (name : String)
  | duplicateName (kind name : String)
  | unsupportedSolver (name : String)
  | other (reason : String)
deriving DecidableEq

namespace EngineError

def message : EngineError → String
  | .dependencyNotFound parameter missing =>
    "parameter \"" ++ parameter ++ "\" depends on \"" ++ missing ++ "\" which has not been created"
  | .unknownNode name => "node \"" ++ name ++ "\" does not exist"
  | .unknownParameter name => "parameter \"" ++ name ++ "\" does not exist"
  | .duplicateName kind name => kind ++ " \"" ++ name ++ "\" already exists"
  | .unsupportedSolver name => "solver \"" ++ name ++ "\" is not supported"
  | .other reason => reason

end EngineError

inductive Request where
  /-- Only storage nodes have an initial volume. -/
  | addNode (name : String) (kind : NodeKind) (initialVolume : Option Float)
  | addAggregatedNode (name : String) (members : List String) (factors : Option (List Float))
  | connect (source target : String)
  | setCost (node : String) (value : Quantity)
  | setBound (node : String) (bound : Bound) (value : Quantity)
  | createParameter (name kind : String) (spec : ComponentSpec)
  | createRecorder (name kind : String) (spec : ComponentSpec)
  | createOutput (name kind : String) (spec : ComponentSpec)
  | run (solver : String) (start stop : Date) (timestep : UInt32)

abbrev Answer :=
  Except EngineError Unit

structure Engine (σ : Type) where
  answer : Request → σ → Answer × σ

end FlowPlan
