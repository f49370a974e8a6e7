import FlowPlan.Error
import FlowPlan.Text.Lowercase

/-!
Registries: what the types that entries of a section may have stand for. Names are looked up in
lower case, and the first registration of a name stays.
-/

namespace FlowPlan

/-- What each registered name stands for, by lower-case name, in the order of registration. -/
structure Registry (κ : Type) where
  sect : Section
  entries : List (String × κ)

namespace Registry

variable {κ : Type}

def empty (sect : Section) : Registry κ where
  sect := sect
  entries := []

def find? (registry : Registry κ) (name : String) : Option κ :=
  registry.entries.lookup (Text.lowercase name)

def contains (registry : Registry κ) (name : String) : Bool :=
  (registry.find? name).isSome

def typeNames (registry : Registry κ) : List String :=
  (registry.entries.map (·.1)).mergeSort fun a b => decide (a ≤ b)

def size (registry : Registry κ) : Nat :=
  registry.entries.length

/-- Adds a name, unless it is taken; tells whether it was added. -/
def register (registry : Registry κ) (name : String) (meaning : κ) : Bool × Registry κ :=
  if registry.contains name then (false, registry)
  else
    (true, { registry with entries := registry.entries ++ [(Text.lowercase name, meaning)] })

def ofList (sect : Section) (entries : List (String × κ)) : Registry κ :=
  entries.foldl (fun registry entry => (registry.register entry.1 entry.2).2) (empty sect)

def resolve (registry : Registry κ) (name : String) : Except ModelError κ :=
  match registry.find? name with
  | some meaning => .ok meaning
  | none => .error (.unknownType registry.sect name registry.typeNames)

end Registry

end FlowPlan
