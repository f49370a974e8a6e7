import FlowPlan.Registry
import FlowPlan.Strictness

namespace FlowPlan

class Entity (α : Type) where
  sect : Section
  name : α → String
  /-- The type as engines are told. -/
  typeName : α → String
  /-- The type as documents spell it. -/
  tag : α → String
  /-- The fields of each type. -/
  registry : Registry (Schema α)
  /-- The fields in the order of declaration, null where unset. -/
  fields : α → Fields
  /-- What is invalid about an entry whose fields have the right types. -/
  invalidity? : α → Option Invalidity

namespace Entity

variable {α : Type} [Entity α]

/-- The fields that an entry is written with: its type in front. -/
def written (a : α) : Fields :=
  ("type", .text (tag a)) :: fields a

def toDocument (a : α) : Document :=
  .mapping (written a)

def body (a : α) : Document :=
  (toDocument a).takeOut "type"

def validate (a : α) : Except ModelError Unit :=
  match invalidity? a with
  | some details => .error (.invalid (sect α) (some (name a)) details)
  | none => .ok ()

def nameOf? (fields : Fields) : Option String :=
  match fields.value? "name" with
  | some (.text name) => some name
  | _ => none

def typeOf (sect : Section) (index : Nat) (fields : Fields) : Except ModelError String :=
  match fields.value? "type" with
  | none => .error (.missingType sect index)
  | some (.text type) => .ok type
  | some found => .error (.invalid sect (nameOf? fields) (.typeNotText found.shape))

/-- Loads the entry at `index` of its section. Its fields are read as they stand once the type has
been taken out. -/
def load (strictness : Strictness) (index : Nat) (document : Document) : Load α := do
  match document with
  | .mapping fields =>
    let type ← typeOf (sect α) index fields
    let schema : Schema α ← registry.resolve type
    let rest := Fields.takeOut "type" fields
    match schema.read rest with
    | .error mismatch => throw (.invalid (sect α) (nameOf? fields) (.field mismatch))
    | .ok entity =>
      strictness.checkUnknown (sect α) (some (name entity)) (Fields.leftOver (body entity) rest)
      validate entity
      return entity
  | found => throw (.invalid (sect α) none (.entryNotAMapping index found.shape))

end Entity

end FlowPlan
