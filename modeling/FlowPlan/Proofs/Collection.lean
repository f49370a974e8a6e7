import FlowPlan.Collection
import Mathlib.Data.List.Nodup

namespace FlowPlan

namespace Collection

variable {α : Type} [Entity α]

/-- An entry is known by its name. -/
theorem eq_of_name_eq {collection : Collection α} {a b : α} (ha : a ∈ collection.entities)
    (hb : b ∈ collection.entities) (h : Entity.name a = Entity.name b) : a = b :=
  List.inj_on_of_nodup_map collection.nodup ha hb h

theorem contains_iff {collection : Collection α} {name : String} :
    collection.contains name = true ↔ ∃ a ∈ collection.entities, Entity.name a = name := by
  unfold contains names
  rw [List.contains_iff_mem, List.mem_map]

theorem contains_of_mem {collection : Collection α} {a : α} (ha : a ∈ collection.entities) :
    collection.contains (Entity.name a) = true :=
  contains_iff.mpr ⟨a, ha, rfl⟩

/-- Names are distinct, so that an entry is found under its name when it is there. -/
theorem find?_eq_some_iff {collection : Collection α} {name : String} {a : α} :
    collection.find? name = some a ↔ a ∈ collection.entities ∧ Entity.name a = name := by
  unfold find?
  constructor
  · intro h
    exact ⟨List.mem_of_find?_eq_some h, by simpa using List.find?_some h⟩
  · rintro ⟨ha, rfl⟩
    cases hfound : collection.entities.find? fun b => Entity.name b == Entity.name a with
    | none => exact absurd (List.find?_eq_none.mp hfound a ha) (by simp)
    | some b =>
      have hname : Entity.name b = Entity.name a := by simpa using List.find?_some hfound
      rw [eq_of_name_eq (List.mem_of_find?_eq_some hfound) ha hname]

theorem get_eq_ok_iff {collection : Collection α} {name : String} {a : α} :
    collection.get name = .ok a ↔ a ∈ collection.entities ∧ Entity.name a = name := by
  rw [← find?_eq_some_iff]
  unfold get
  cases collection.find? name with
  | none => simp
  | some found => simp

theorem find?_eq_none_iff {collection : Collection α} {name : String} :
    collection.find? name = none ↔ collection.contains name = false := by
  unfold find?
  rw [List.find?_eq_none, Bool.eq_false_iff, ne_eq, contains_iff]
  simp

/-- Looking up a name that has to be there fails exactly when nothing has this name. -/
theorem get_eq_error_iff {collection : Collection α} {name : String} {e : ModelError} :
    collection.get name = .error e ↔
      collection.contains name = false ∧ e = .notFound (Entity.sect α) name := by
  rw [← find?_eq_none_iff]
  unfold get
  cases collection.find? name with
  | none => simp [eq_comm]
  | some found => simp

end Collection

end FlowPlan
