import FlowPlan.Component

namespace FlowPlan

structure FileOutput where
  name : String
  comment : Option String
  filename : String
deriving BEq, DecidableEq

inductive Output where
  | hdf5 (output : FileOutput)
  | csv (output : FileOutput)
deriving BEq, DecidableEq

namespace Output

def name : Output → String
  | hdf5 output => output.name
  | csv output => output.name

def filename : Output → String
  | hdf5 output => output.filename
  | csv output => output.filename

def typeName : Output → String
  | hdf5 _ => "HDF5"
  | csv _ => "CSV"

def tag : Output → String
  | hdf5 _ => "HDF5"
  | csv _ => "CSV"

def schema : Schema FileOutput :=
  FileOutput.mk <$> .required "name" Reader.text <*> .optional "comment" Reader.text
    <*> .required "filename" Reader.path

def registry : Registry (Schema Output) :=
  .ofList .outputs [("HDF5", hdf5 <$> schema), ("CSV", csv <$> schema)]

def fileFields (output : FileOutput) : Fields := [
  ("name", .text output.name),
  ("comment", .optional .text output.comment),
  ("filename", .text output.filename)]

def fields : Output → Fields
  | hdf5 output => fileFields output
  | csv output => fileFields output

instance : Entity Output where
  sect := .outputs
  name := name
  typeName := typeName
  tag := tag
  registry := registry
  fields := fields
  invalidity? := fun _ => none

def spec (context : SpecContext) (output : Output) : ComponentSpec :=
  { ComponentSpec.ofEntity output with files := [context.resolvePath output.filename] }

end Output

end FlowPlan
