import FlowPlan.Entity

namespace FlowPlan

/-- Entries with pairwise distinct names. -/
structure Collection (α : Type) [Entity α] where
  entities : List α
  nodup : (entities.map Entity.name).Nodup

namespace Collection

variable {α : Type} [Entity α]

def empty : Collection α where
  entities := []
  nodup := List.nodup_nil

def names (collection : Collection α) : List String :=
  collection.entities.map Entity.name

def size (collection : Collection α) : Nat :=
  collection.entities.length

def find? (collection : Collection α) (name : String) : Option α :=
  collection.entities.find? fun a => Entity.name a == name

def contains (collection : Collection α) (name : String) : Bool :=
  collection.names.contains name

def get (collection : Collection α) (name : String) : Except ModelError α :=
  match collection.find? name with
  | some a => .ok a
  | none => .error (.notFound (Entity.sect α) name)

def insert (collection : Collection α) (a : α) : Except ModelError (Collection α) :=
  if h : Entity.name a ∈ collection.names then
    .error (.duplicateName (Entity.sect α) (Entity.name a))
  else
    .ok {
      entities := collection.entities ++ [a]
      -- the name is new, so the names stay distinct
      nodup := by
        rw [List.map_append, List.nodup_append]
        refine ⟨collection.nodup, by simp, ?_⟩
        intro x hx y hy
        rw [List.map_cons, List.map_nil, List.mem_singleton] at hy
        subst hy
        rintro rfl
        exact h hx }

def loadFrom (strictness : Strictness) (collection : Collection α) (index : Nat) :
    List Document → Load (Collection α)
  | [] => pure collection
  | document :: rest => do
    let a ← Entity.load strictness index document
    let collection ← collection.insert a
    loadFrom strictness collection (index + 1) rest

/-- Loads all entries of a section. The first one that cannot be loaded or added decides. -/
def load (strictness : Strictness) (documents : List Document) : Load (Collection α) :=
  loadFrom strictness empty 0 documents

def toDocument (collection : Collection α) : Document :=
  .sequence (collection.entities.map Entity.toDocument)

instance [BEq α] : BEq (Collection α) where
  beq a b := a.entities == b.entities

end Collection

end FlowPlan
