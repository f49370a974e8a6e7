import FlowPlan.Proofs.Registry
import Mathlib.Data.Finset.Card
import Mathlib.Data.String.Basic

namespace FlowPlan

namespace Registry

variable {κ : Type} {sect : Section} {registry : Registry κ} {calls : List (String × κ)}

/-- What the calls answer when names are registered one after the other. -/
def answers (registry : Registry κ) : List (String × κ) → List Bool
  | [] => []
  | (name, meaning) :: rest =>
    let (added, next) := registry.register name meaning
    added :: next.answers rest

def IsNew (calls : List (String × κ)) (name : String) : Prop :=
  ∀ earlier ∈ calls, Text.lowercase earlier.1 ≠ Text.lowercase name

instance (calls : List (String × κ)) (name : String) : Decidable (IsNew calls name) := by
  unfold IsNew
  infer_instance

def firstCall? (calls : List (String × κ)) (name : String) : Option (String × κ) :=
  calls.find? fun call => Text.lowercase call.1 == Text.lowercase name

def namesOf (calls : List (String × κ)) : Finset String :=
  (calls.map fun call => Text.lowercase call.1).toFinset

/-- Whether a registry is what some calls have made of an empty one. -/
structure Reflects (registry : Registry κ) (calls : List (String × κ)) : Prop where
  nodup : (registry.entries.map Prod.fst).Nodup
  lookup_eq : ∀ key, registry.entries.lookup key = (lowered calls).lookup key

/-- The first call under a name, in any case, is the one that a lookup finds. -/
theorem lookup_lowered (calls : List (String × κ)) (name : String) :
    (lowered calls).lookup (Text.lowercase name) = (firstCall? calls name).map Prod.snd := by
  induction calls with
  | nil => rfl
  | cons call rest ih =>
    have hhead : lowered (call :: rest) =
        (Text.lowercase call.1, call.2) :: lowered rest := rfl
    unfold firstCall? at ih ⊢
    rw [hhead, List.lookup_cons, List.find?_cons, BEq.comm]
    cases Text.lowercase call.1 == Text.lowercase name with
    | true => rfl
    | false => exact ih

theorem firstCall?_eq_none_iff {name : String} :
    firstCall? calls name = none ↔ IsNew calls name := by
  unfold firstCall? IsNew
  rw [List.find?_eq_none]
  simp only [beq_iff_eq, ne_eq]

namespace Reflects

theorem empty : (empty sect : Registry κ).Reflects [] where
  nodup := List.nodup_nil
  lookup_eq := fun _ => rfl

/-- The earliest call with a name stays. -/
theorem find?_eq (h : registry.Reflects calls) (name : String) :
    registry.find? name = (firstCall? calls name).map Prod.snd := by
  unfold find?
  rw [h.lookup_eq, lookup_lowered]

theorem contains_eq_false_iff (h : registry.Reflects calls) {name : String} :
    registry.contains name = false ↔ IsNew calls name := by
  rw [← find?_eq_none_iff, h.find?_eq, Option.map_eq_none_iff, firstCall?_eq_none_iff]

theorem lookup_lowered_concat (h : registry.Reflects calls) (name : String) (meaning : κ)
    (key : String) :
    (lowered (calls ++ [(name, meaning)])).lookup key =
      (registry.entries ++ [(Text.lowercase name, meaning)]).lookup key := by
  unfold lowered
  rw [List.map_append, List.lookup_append, List.lookup_append, h.lookup_eq]
  rfl

/-- A name that is new is added at the end, and the registry reflects one call more. -/
theorem concat_of_new (h : registry.Reflects calls) {name : String}
    (hnew : registry.contains name = false) (meaning : κ) :
    Reflects { registry with entries := registry.entries ++ [(Text.lowercase name, meaning)] }
      (calls ++ [(name, meaning)]) := by
  have hfree : Text.lowercase name ∉ registry.entries.map Prod.fst :=
    lookup_eq_none_iff_not_mem.mp (find?_eq_none_iff.mpr hnew)
  constructor
  · rw [List.map_append, List.map_singleton, ← List.concat_eq_append]
    exact List.Nodup.concat hfree h.nodup
  · exact fun key => (h.lookup_lowered_concat name meaning key).symm

/-- A later meaning of a name is behind an earlier one. -/
theorem concat_of_taken (h : registry.Reflects calls) {name : String}
    (htaken : registry.contains name = true) (meaning : κ) :
    registry.Reflects (calls ++ [(name, meaning)]) := by
  refine ⟨h.nodup, fun key => ?_⟩
  rw [h.lookup_lowered_concat, List.lookup_append]
  by_cases hkey : key = Text.lowercase name
  · obtain ⟨found, hfound⟩ := Option.isSome_iff_exists.mp htaken
    have hlookup : registry.entries.lookup key = some found := hkey ▸ hfound
    rw [hlookup, Option.some_or]
  · have hother : [(Text.lowercase name, meaning)].lookup key = none :=
      lookup_eq_none_iff_not_mem.mpr fun hmem => hkey (List.mem_singleton.mp hmem)
    rw [hother, Option.or_none]

/-- A name is added when it is new, and no registration changes what is found under others. -/
theorem register (h : registry.Reflects calls) (name : String) (meaning : κ) :
    (registry.register name meaning).1 = decide (IsNew calls name) ∧
      (registry.register name meaning).2.Reflects (calls ++ [(name, meaning)]) := by
  -- the registry has the name just if an earlier call had it, in whatever case
  cases hcontains : registry.contains name with
  | false =>
    have hnew : IsNew calls name := h.contains_eq_false_iff.mp hcontains
    rw [register_of_new hcontains, decide_eq_true hnew]
    exact ⟨rfl, h.concat_of_new hcontains meaning⟩
  | true =>
    have hold : ¬IsNew calls name := by
      rw [← h.contains_eq_false_iff, hcontains]
      simp
    rw [register_of_taken hcontains, decide_eq_false hold]
    exact ⟨rfl, h.concat_of_taken hcontains meaning⟩

/-- A registry reflects its history, whatever calls come next: by induction on them, a call under a
known name changes neither side. -/
theorem foldl_register {before : List (String × κ)} (h : registry.Reflects before)
    (calls : List (String × κ)) :
    (calls.foldl (fun registry call => (registry.register call.1 call.2).2) registry).Reflects
      (before ++ calls) := by
  induction calls generalizing registry before with
  | nil =>
    rw [List.append_nil]
    exact h
  | cons call rest ih =>
    have hnext := (h.register call.1 call.2).2
    rw [List.foldl_cons, List.append_cons]
    exact ih hnext

theorem ofList (sect : Section) (calls : List (String × κ)) :
    (ofList sect calls).Reflects calls :=
  empty.foldl_register calls

/-- Every answer tells whether the name is new after the calls before. -/
theorem answers_eq {before : List (String × κ)} (h : registry.Reflects before)
    (calls : List (String × κ)) :
    registry.answers calls =
      calls.mapIdx fun index call => decide (IsNew (before ++ calls.take index) call.1) := by
  -- by induction on the calls, from any registry that reflects those before them
  induction calls generalizing registry before with
  | nil => rfl
  | cons call rest ih =>
    obtain ⟨name, meaning⟩ := call
    obtain ⟨hanswer, hnext⟩ := h.register name meaning
    have hprefix : (fun index (call : String × κ) =>
        decide (IsNew (before ++ [(name, meaning)] ++ rest.take index) call.1)) =
          fun index call =>
            decide (IsNew (before ++ ((name, meaning) :: rest).take (index + 1)) call.1) := by
      funext index call
      rw [List.take_succ_cons, ← List.append_cons]
    change (registry.register name meaning).1 ::
      (registry.register name meaning).2.answers rest = _
    rw [List.mapIdx_cons, hanswer, ih hnext, hprefix, List.take_zero, List.append_nil]

theorem mem_keys_iff (h : registry.Reflects calls) {key : String} :
    key ∈ registry.entries.map Prod.fst ↔ key ∈ (lowered calls).map Prod.fst := by
  rw [← not_iff_not, ← lookup_eq_none_iff_not_mem, ← lookup_eq_none_iff_not_mem, h.lookup_eq]

end Reflects

theorem perm_typeNames (registry : Registry κ) :
    registry.typeNames.Perm (registry.entries.map Prod.fst) :=
  List.mergeSort_perm _ _

theorem pairwise_le_typeNames (registry : Registry κ) :
    registry.typeNames.Pairwise (· ≤ ·) := by
  have htrans (a b c : String) (hab : decide (a ≤ b) = true) (hbc : decide (b ≤ c) = true) :
      decide (a ≤ c) = true :=
    decide_eq_true (le_trans (of_decide_eq_true hab) (of_decide_eq_true hbc))
  have htotal (a b : String) : (decide (a ≤ b) || decide (b ≤ a)) = true := by
    rw [Bool.or_eq_true, decide_eq_true_eq, decide_eq_true_eq]
    exact le_total a b
  exact (List.pairwise_mergeSort htrans htotal _).imp of_decide_eq_true

namespace Reflects

/-- The names are sorted without repetition. -/
theorem pairwise_typeNames (h : registry.Reflects calls) :
    registry.typeNames.Pairwise (· < ·) := by
  have hnodup : registry.typeNames.Nodup := registry.perm_typeNames.nodup_iff.mpr h.nodup
  refine (registry.pairwise_le_typeNames.and hnodup).imp fun hpair => ?_
  exact lt_of_le_of_ne hpair.1 hpair.2

theorem toFinset_typeNames (h : registry.Reflects calls) :
    registry.typeNames.toFinset = namesOf calls := by
  ext key
  rw [List.mem_toFinset, registry.perm_typeNames.mem_iff, h.mem_keys_iff, namesOf,
    List.mem_toFinset, lowered, List.map_map]
  rfl

/-- The size counts names that differ by more than case. -/
theorem size_eq (h : registry.Reflects calls) : registry.size = (namesOf calls).card := by
  have hnodup : registry.typeNames.Nodup := registry.perm_typeNames.nodup_iff.mpr h.nodup
  calc
    registry.size = registry.typeNames.length := by
      rw [registry.perm_typeNames.length_eq, List.length_map]
      rfl
    _ = registry.typeNames.toFinset.card := (List.toFinset_card_of_nodup hnodup).symm
    _ = (namesOf calls).card := by rw [h.toFinset_typeNames]

/-- What is registered under a name is what the first call with it, in any case, has given. -/
theorem resolve_eq (h : registry.Reflects calls) (name : String) :
    registry.resolve name =
      match firstCall? calls name with
      | some call => .ok call.2
      | none => .error (.unknownType registry.sect name registry.typeNames) := by
  unfold resolve
  rw [h.find?_eq]
  cases firstCall? calls name with
  | none => rfl
  | some call => rfl

end Reflects

theorem contains_eq_true_iff {name : String} :
    registry.contains name = true ↔ ∃ meaning, registry.resolve name = .ok meaning := by
  simp only [resolve_eq_ok_iff]
  exact Option.isSome_iff_exists

/-- After any registrations, a registry has the meaning that the first of them gave to a name, and
no registration but the first was accepted. Names that differ only in case are one name, here and
in the list of all names. -/
theorem first_registration_decides (sect : Section) (calls : List (String × κ)) :
    (empty sect).answers calls =
      calls.mapIdx (fun index call => decide (IsNew (calls.take index) call.1)) ∧
    (∀ name,
      (ofList sect calls).resolve name =
        (match firstCall? calls name with
          | some call => .ok call.2
          | none => .error (.unknownType sect name (ofList sect calls).typeNames)) ∧
      ((ofList sect calls).contains name = true ↔
        ∃ meaning, (ofList sect calls).resolve name = .ok meaning)) ∧
    (ofList sect calls).typeNames.Pairwise (· < ·) ∧
    (ofList sect calls).typeNames.toFinset = namesOf calls ∧
    (ofList sect calls).size = (namesOf calls).card := by
  have h : (ofList sect calls).Reflects calls := .ofList sect calls
  refine ⟨Reflects.empty.answers_eq calls, fun name => ⟨?_, contains_eq_true_iff⟩,
    h.pairwise_typeNames, h.toFinset_typeNames, h.size_eq⟩
  rw [h.resolve_eq, sect_ofList]

/-- Two shapes, one of them registered again in capitals with another meaning. -/
example :
    (empty .nodes).answers [("Square", 4), ("Circle", 0), ("CIRCLE", 1)] = [true, true, false] ∧
      (ofList .nodes [("Square", 4), ("Circle", 0), ("CIRCLE", 1)]).find? "circle" = some 0 := by
  decide +kernel

end Registry

end FlowPlan
