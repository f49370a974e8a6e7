import FlowPlan.Component

namespace FlowPlan

structure NodeRecorder where
  name : String
  comment : Option String
  node : String
deriving BEq, DecidableEq

structure ParameterRecorder where
  name : String
  comment : Option String
  parameter : String
deriving BEq, DecidableEq

inductive Recorder where
  | nodeFlow (recorder : NodeRecorder)
  | storageVolume (recorder : NodeRecorder)
  | parameter (recorder : ParameterRecorder)
deriving BEq, DecidableEq

namespace Recorder

def name : Recorder → String
  | nodeFlow recorder => recorder.name
  | storageVolume recorder => recorder.name
  | parameter recorder => recorder.name

def typeName : Recorder → String
  | nodeFlow _ => "NodeFlow"
  | storageVolume _ => "StorageVolume"
  | parameter _ => "Parameter"

def tag : Recorder → String
  | nodeFlow _ => "NodeFlow"
  | storageVolume _ => "StorageVolume"
  | parameter _ => "Parameter"

def nodeSchema : Schema NodeRecorder :=
  NodeRecorder.mk <$> .required "name" Reader.text <*> .optional "comment" Reader.text
    <*> .required "node" Reader.text

def parameterSchema : Schema ParameterRecorder :=
  ParameterRecorder.mk <$> .required "name" Reader.text <*> .optional "comment" Reader.text
    <*> .required "parameter" Reader.text

def registry : Registry (Schema Recorder) :=
  .ofList .recorders [
    ("NodeFlow", nodeFlow <$> nodeSchema),
    ("StorageVolume", storageVolume <$> nodeSchema),
    ("Parameter", parameter <$> parameterSchema)]

def nodeFields (recorder : NodeRecorder) : Fields := [
  ("name", .text recorder.name),
  ("comment", .optional .text recorder.comment),
  ("node", .text recorder.node)]

def fields : Recorder → Fields
  | nodeFlow recorder => nodeFields recorder
  | storageVolume recorder => nodeFields recorder
  | parameter recorder => [
    ("name", .text recorder.name),
    ("comment", .optional .text recorder.comment),
    ("parameter", .text recorder.parameter)]

instance : Entity Recorder where
  sect := .recorders
  name := name
  typeName := typeName
  tag := tag
  registry := registry
  fields := fields
  invalidity? := fun _ => none

def nodeReferences : Recorder → List String
  | nodeFlow recorder => [recorder.node]
  | storageVolume recorder => [recorder.node]
  | parameter _ => []

def parameterReferences : Recorder → List String
  | nodeFlow _ => []
  | storageVolume _ => []
  | parameter recorder => [recorder.parameter]

def spec (recorder : Recorder) : ComponentSpec :=
  { ComponentSpec.ofEntity recorder with
    parameterReferences := recorder.parameterReferences
    nodeReferences := recorder.nodeReferences }

end Recorder

end FlowPlan
