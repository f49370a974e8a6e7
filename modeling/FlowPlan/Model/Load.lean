import FlowPlan.Model.Basic

namespace FlowPlan.Model

def sections : List Section :=
  [.timestepper, .nodes, .edges, .parameters, .recorders, .tables, .outputs]

def unknownKeys (fields : Fields) : List String :=
  fields.keys.filter fun key => !(sections.map Section.key).contains key

/-- The entries of a section. One that may be left out may also be null. -/
def sectionItems (fields : Fields) (sect : Section) (required : Bool) :
    Except ModelError (List Document) :=
  match fields.value? sect.key with
  | some (.sequence items) => .ok items
  | none =>
    if required then .error (.invalid sect none (.required sect.key)) else .ok []
  | some .null =>
    if required then .error (.invalid sect none (.notASequence .null)) else .ok []
  | some found => .error (.invalid sect none (.notASequence found.shape))

def loadTimestepper (strictness : Strictness) (fields : Fields) : Load Timestepper :=
  match fields.value? Section.timestepper.key with
  | some document => Timestepper.load strictness document
  | none => throw (.invalid .timestepper none (.required Section.timestepper.key))

def loadSection (α : Type) [Entity α] (strictness : Strictness) (fields : Fields)
    (required : Bool) : Load (Collection α) := do
  let items ← sectionItems fields (Entity.sect α) required
  Collection.load strictness items

def loadEdges (strictness : Strictness) (fields : Fields) : Load (List Edge) := do
  let items ← sectionItems fields .edges false
  Edge.loadFrom strictness 0 items

def sizes (model : Model) : String :=
  toString model.nodes.size ++ " node(s), " ++ toString model.edges.length ++ " edge(s), " ++
    toString model.parameters.size ++ " parameter(s), " ++ toString model.recorders.size ++
    " recorder(s), " ++ toString model.tables.size ++ " table(s) and " ++
    toString model.outputs.size ++ " output(s)"

/-- Loads a model from a document. -/
def load (strictness : Strictness) : Document → Load Model
  | .mapping fields => do
    strictness.checkUnknown .model none (unknownKeys fields)
    let timestepper ← loadTimestepper strictness fields
    let nodes ← loadSection Node strictness fields true
    let edges ← loadEdges strictness fields
    let parameters ← loadSection Parameter strictness fields false
    let recorders ← loadSection Recorder strictness fields false
    let tables ← loadSection Table strictness fields false
    let outputs ← loadSection Output strictness fields false
    let model : Model :=
      { timestepper, nodes, edges, parameters, recorders, tables, outputs, path := none }
    Logged.note .debug ("Loaded model with " ++ model.sizes)
    return model
  | found => throw (.invalid .model none (.notAMapping found.shape))

def load? (strictness : Strictness) (document : Document) : Except ModelError Model :=
  (load strictness document).run.value

end FlowPlan.Model
