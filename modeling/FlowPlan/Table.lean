import FlowPlan.Collection

namespace FlowPlan

structure CsvTable where
  name : String
  comment : Option String
  url : String
  indexColumn : Option String
deriving BEq, DecidableEq

structure HdfTable where
  name : String
  comment : Option String
  url : String
  key : String
deriving BEq, DecidableEq

inductive Table where
  | csv (table : CsvTable)
  | hdf (table : HdfTable)
deriving BEq, DecidableEq

namespace Table

def name : Table → String
  | csv table => table.name
  | hdf table => table.name

def url : Table → String
  | csv table => table.url
  | hdf table => table.url

def typeName : Table → String
  | csv _ => "CSV"
  | hdf _ => "HDF"

def tag : Table → String
  | csv _ => "CSV"
  | hdf _ => "HDF"

def csvSchema : Schema CsvTable :=
  CsvTable.mk <$> .required "name" Reader.text <*> .optional "comment" Reader.text
    <*> .required "url" Reader.path <*> .optional "index_col" Reader.text

def hdfSchema : Schema HdfTable :=
  HdfTable.mk <$> .required "name" Reader.text <*> .optional "comment" Reader.text
    <*> .required "url" Reader.path <*> .required "key" Reader.text

def registry : Registry (Schema Table) :=
  .ofList .tables [("CSV", csv <$> csvSchema), ("HDF", hdf <$> hdfSchema)]

def fields : Table → Fields
  | csv table => [
    ("name", .text table.name),
    ("comment", .optional .text table.comment),
    ("url", .text table.url),
    ("index_col", .optional .text table.indexColumn)]
  | hdf table => [
    ("name", .text table.name),
    ("comment", .optional .text table.comment),
    ("url", .text table.url),
    ("key", .text table.key)]

instance : Entity Table where
  sect := .tables
  name := name
  typeName := typeName
  tag := tag
  registry := registry
  fields := fields
  invalidity? := fun _ => none

end Table

end FlowPlan
