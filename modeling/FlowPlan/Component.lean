import FlowPlan.Path
import FlowPlan.Table

namespace FlowPlan

structure SpecContext where
  tables : Collection Table
  /-- The directory that relative paths start from. -/
  basePath : Option String

namespace SpecContext

def resolvePath (context : SpecContext) (path : String) : String :=
  match context.basePath with
  | some base => Path.join base path
  | none => path

end SpecContext

namespace ComponentSpec

def ofFields (fields : Fields) : ComponentSpec :=
  { empty with attributes := Document.finiteFields fields }

def ofDocument : Document → Except ModelError ComponentSpec
  | .mapping fields => .ok (ofFields fields)
  | _ => .error .attributesNotAMapping

/-- An entry is written as a mapping, so it always has attributes. -/
theorem ofDocument_toDocument {α : Type} [Entity α] (a : α) :
    ofDocument (Entity.toDocument a) = .ok (ofFields (Entity.written a)) := rfl

/-- The component of an entry has the fields that the entry is written with, but for its type. -/
def ofEntity {α : Type} [Entity α] (a : α) : ComponentSpec :=
  match made : ofDocument (Entity.toDocument a) with
  | .ok spec => { spec with attributes := Fields.takeOut "type" spec.attributes }
  | .error _ => nomatch (ofDocument_toDocument a).symm.trans made

end ComponentSpec

end FlowPlan
