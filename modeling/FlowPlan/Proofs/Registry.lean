import FlowPlan.Proofs.Lookup
import FlowPlan.Registry

namespace FlowPlan

namespace Registry

variable {κ : Type} {sect : Section} {entries : List (String × κ)}

def lowered (entries : List (String × κ)) : List (String × κ) :=
  entries.map fun entry => (Text.lowercase entry.1, entry.2)

theorem find?_eq_none_iff {registry : Registry κ} {name : String} :
    registry.find? name = none ↔ registry.contains name = false := by
  unfold contains
  rw [Option.isSome_eq_false_iff, Option.isNone_iff_eq_none]

theorem register_of_new {registry : Registry κ} {name : String}
    (h : registry.contains name = false) (meaning : κ) :
    registry.register name meaning =
      (true, { registry with
        entries := registry.entries ++ [(Text.lowercase name, meaning)] }) := by
  unfold register
  rw [h]
  rfl

theorem register_of_taken {registry : Registry κ} {name : String}
    (h : registry.contains name = true) (meaning : κ) :
    registry.register name meaning = (false, registry) := by
  unfold register
  rw [if_pos h]

theorem sect_register (registry : Registry κ) (name : String) (meaning : κ) :
    (registry.register name meaning).2.sect = registry.sect := by
  unfold register
  split
  · rfl
  · rfl

theorem sect_foldl_register (registry : Registry κ) (entries : List (String × κ)) :
    (entries.foldl (fun registry entry => (registry.register entry.1 entry.2).2) registry).sect =
      registry.sect := by
  induction entries generalizing registry with
  | nil => rfl
  | cons entry rest ih => rw [List.foldl_cons, ih, sect_register]

theorem sect_ofList (sect : Section) (entries : List (String × κ)) :
    (ofList sect entries).sect = sect :=
  sect_foldl_register (empty sect) entries

/-- Names that are distinct in lower case are all registered, in the order of the calls. -/
theorem entries_foldl_register {registry : Registry κ}
    (hnodup : ((registry.entries ++ lowered entries).map Prod.fst).Nodup) :
    (entries.foldl (fun registry entry => (registry.register entry.1 entry.2).2)
      registry).entries = registry.entries ++ lowered entries := by
  induction entries generalizing registry with
  | nil => exact (List.append_nil _).symm
  | cons entry rest ih =>
    have hsplit : registry.entries ++ lowered (entry :: rest) =
        (registry.entries ++ [(Text.lowercase entry.1, entry.2)]) ++ lowered rest :=
      List.append_cons ..
    -- the name is new, so it is registered
    have hnew : registry.contains entry.1 = false := by
      rw [hsplit, List.map_append, List.map_append, List.nodup_append, List.nodup_append] at hnodup
      refine find?_eq_none_iff.mp (lookup_eq_none_iff_not_mem.mpr fun htaken => ?_)
      exact hnodup.1.2.2 _ htaken (Text.lowercase entry.1) (List.mem_singleton.mpr rfl) rfl
    rw [List.foldl_cons, register_of_new hnew, hsplit]
    rw [hsplit] at hnodup
    exact ih hnodup

theorem entries_ofList (hnodup : ((lowered entries).map Prod.fst).Nodup) :
    (ofList sect entries).entries = lowered entries :=
  entries_foldl_register hnodup

/-- What holds of all that is registered holds of all entries. -/
theorem forall_ofList (P : κ → Prop) (hnodup : ((lowered entries).map Prod.fst).Nodup)
    (h : ∀ entry ∈ entries, P entry.2) : ∀ entry ∈ (ofList sect entries).entries, P entry.2 := by
  rw [entries_ofList hnodup, lowered, List.forall_mem_map]
  exact h

/-- A registry with distinct names is the lookup table of its calls. -/
theorem find?_ofList (hnodup : ((lowered entries).map Prod.fst).Nodup) (name : String) :
    (ofList sect entries).find? name = (lowered entries).lookup (Text.lowercase name) := by
  unfold find?
  rw [entries_ofList hnodup]

/-- A name that is registered is found. -/
theorem find?_of_mem (hnodup : ((lowered entries).map Prod.fst).Nodup) {name : String}
    {meaning : κ} (h : (name, meaning) ∈ entries) :
    (ofList sect entries).find? name = some meaning := by
  rw [find?_ofList hnodup, lookup_eq_some_iff_mem hnodup]
  exact List.mem_map.mpr ⟨_, h, rfl⟩

theorem resolve_eq_ok_iff {registry : Registry κ} {name : String} {meaning : κ} :
    registry.resolve name = .ok meaning ↔ registry.find? name = some meaning := by
  unfold resolve
  cases registry.find? name with
  | none => simp
  | some found => simp

/-- What is found has been registered. -/
theorem forall_of_find? {registry : Registry κ} {P : κ → Prop}
    (hall : ∀ entry ∈ registry.entries, P entry.2) {name : String} {meaning : κ}
    (h : registry.find? name = some meaning) : P meaning :=
  hall _ (mem_of_lookup_eq_some h)

end Registry

end FlowPlan
