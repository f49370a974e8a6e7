import FlowPlan.Document.Basic
import Mathlib.Data.List.Nodup

namespace FlowPlan

section

variable {α : Type} {entries other : List (String × α)} {key : String} {a : α}

theorem mem_of_lookup_eq_some (h : entries.lookup key = some a) : (key, a) ∈ entries := by
  obtain ⟨before, after, rfl, -⟩ := List.lookup_eq_some_iff.mp h
  simp

theorem lookup_eq_none_iff_not_mem :
    entries.lookup key = none ↔ key ∉ entries.map Prod.fst := by
  rw [List.lookup_eq_none_iff, List.mem_map]
  constructor
  · rintro h ⟨entry, hentry, rfl⟩
    simpa using h entry hentry
  · intro h entry hentry
    rw [bne_iff_ne]
    rintro rfl
    exact h ⟨entry, hentry, rfl⟩

/-- In a list of entries with distinct names, each name finds its entry. -/
theorem lookup_eq_some_iff_mem (hnodup : (entries.map Prod.fst).Nodup) :
    entries.lookup key = some a ↔ (key, a) ∈ entries := by
  constructor
  · exact mem_of_lookup_eq_some
  · intro hmem
    obtain ⟨before, after, rfl⟩ := List.append_of_mem hmem
    rw [List.map_append, List.map_cons, List.nodup_append] at hnodup
    refine List.lookup_eq_some_iff.mpr ⟨before, after, rfl, fun entry hentry => ?_⟩
    rw [bne_iff_ne]
    exact fun hsame => hnodup.2.2 entry.1 (List.mem_map_of_mem hentry) key List.mem_cons_self
      hsame.symm

/-- Where keys differ, the order of the entries does not matter. -/
theorem lookup_eq_of_perm (hnodup : (entries.map Prod.fst).Nodup) (h : entries.Perm other) :
    entries.lookup key = other.lookup key := by
  have hnodup' : (other.map Prod.fst).Nodup := (h.map Prod.fst).nodup_iff.mp hnodup
  ext a
  rw [lookup_eq_some_iff_mem hnodup, lookup_eq_some_iff_mem hnodup', h.mem_iff]

/-- Entries under other keys do not matter to a key. -/
theorem lookup_filter (keep : String → Bool) (hkey : keep key = true) :
    (entries.filter fun entry => keep entry.1).lookup key = entries.lookup key := by
  induction entries with
  | nil => rfl
  | cons entry rest ih =>
    obtain ⟨name, b⟩ := entry
    rw [List.filter_cons]
    by_cases hname : key = name
    · subst hname
      rw [if_pos hkey, List.lookup_cons_self, List.lookup_cons_self]
    · have hother : (key == name) = false := beq_eq_false_iff_ne.mpr hname
      have hskip (later : List (String × α)) :
          ((name, b) :: later).lookup key = later.lookup key := by
        rw [List.lookup_cons, hother]
      rw [hskip, ← ih]
      split
      · exact hskip _
      · rfl

/-- Values that change do so under their keys. -/
theorem lookup_map {β : Type} (change : String → α → β) :
    (entries.map fun entry => (entry.1, change entry.1 entry.2)).lookup key =
      (entries.lookup key).map (change key) := by
  induction entries with
  | nil => rfl
  | cons entry rest ih =>
    rw [List.map_cons, List.lookup_cons, List.lookup_cons]
    cases hkey : key == entry.1 with
    | true =>
      rw [eq_of_beq hkey]
      rfl
    | false => exact ih

end

namespace Fields

variable {fields : Fields} {key other : String} {entry : String × Document}

theorem exists_value?_iff : (∃ value, fields.value? key = some value) ↔ key ∈ fields.keys := by
  rw [← Option.ne_none_iff_exists', Ne]
  exact (not_congr lookup_eq_none_iff_not_mem).trans not_not

def restrict (keys : List String) (fields : Fields) : Fields :=
  fields.filter fun entry => keys.contains entry.1

theorem value?_restrict {keys : List String} (hkey : key ∈ keys) :
    (fields.restrict keys).value? key = fields.value? key :=
  lookup_filter keys.contains (List.contains_iff_mem.mpr hkey)

theorem mem_of_mem_keys_restrict {keys : List String} (h : key ∈ (fields.restrict keys).keys) :
    key ∈ keys := by
  obtain ⟨entry, hentry, rfl⟩ := List.mem_map.mp h
  exact List.contains_iff_mem.mp (List.mem_filter.mp hentry).2

theorem nodup_keys_restrict (keys : List String) (hnodup : fields.keys.Nodup) :
    (fields.restrict keys).keys.Nodup :=
  (List.filter_sublist.map Prod.fst).nodup hnodup

/-- No key is left over when each is found in what is written. -/
theorem leftOver_eq_nil_iff {emitted : Document} :
    fields.leftOver emitted = [] ↔
      ∀ key ∈ fields.keys, ∃ known : Fields, emitted = .mapping known ∧ key ∈ known.keys := by
  cases emitted with
  | mapping known =>
    unfold leftOver
    rw [List.filter_eq_nil_iff]
    simp
  | _ =>
    unfold leftOver
    rw [List.eq_nil_iff_forall_not_mem]
    simp

/-- The last entry moves to where one is taken out. -/
theorem takeOut_cons_perm (key : String) (value : Document) (rest : Fields) :
    (takeOut key ((key, value) :: rest)).Perm rest := by
  rw [takeOut, if_pos rfl]
  cases hlast : rest.getLast? with
  | none => rw [List.getLast?_eq_none_iff.mp hlast]
  | some last =>
    obtain ⟨front, rfl⟩ := List.getLast?_eq_some_iff.mp hlast
    rw [List.dropLast_concat]
    exact (List.perm_append_singleton last front).symm

/-- What is left when a key is taken out are the entries under other keys. -/
theorem takeOut_perm (hnodup : fields.keys.Nodup) :
    (takeOut key fields).Perm (fields.filter fun entry => entry.1 ≠ key) := by
  induction fields with
  | nil => exact List.Perm.refl _
  | cons entry rest ih =>
    obtain ⟨hnew, hrest⟩ := List.nodup_cons.mp hnodup
    by_cases hentry : entry.1 = key
    · have hothers : rest.filter (fun entry => entry.1 ≠ key) = rest := by
        refine List.filter_eq_self.mpr fun other hother => decide_eq_true fun hsame => ?_
        exact hnew (List.mem_map.mpr ⟨other, hother, hsame.trans hentry.symm⟩)
      rw [List.filter_cons_of_neg (by simpa using hentry), hothers, ← hentry]
      exact takeOut_cons_perm entry.1 entry.2 rest
    · rw [takeOut, if_neg hentry, List.filter_cons_of_pos (by simpa using hentry)]
      exact (ih hrest).cons entry

theorem nodup_keys_takeOut (hnodup : fields.keys.Nodup) : (takeOut key fields).keys.Nodup :=
  (((takeOut_perm hnodup).map Prod.fst).nodup_iff).mpr
    ((List.filter_sublist.map Prod.fst).nodup hnodup)

/-- Other keys keep their values when one is taken out. -/
theorem value?_takeOut (hnodup : fields.keys.Nodup) (hother : other ≠ key) :
    (takeOut key fields).value? other = fields.value? other := by
  unfold value?
  rw [lookup_eq_of_perm (nodup_keys_takeOut hnodup) (takeOut_perm hnodup)]
  exact lookup_filter (fun name => decide (name ≠ key)) (decide_eq_true hother)

theorem mem_takeOut_iff (hnodup : fields.keys.Nodup) :
    entry ∈ takeOut key fields ↔ entry ∈ fields ∧ entry.1 ≠ key := by
  rw [(takeOut_perm hnodup).mem_iff, List.mem_filter, decide_eq_true_eq]

theorem mem_keys_takeOut_iff (hnodup : fields.keys.Nodup) :
    other ∈ (takeOut key fields).keys ↔ other ∈ fields.keys ∧ other ≠ key := by
  unfold keys
  simp only [List.mem_map, mem_takeOut_iff hnodup]
  constructor
  · rintro ⟨entry, ⟨hentry, hother⟩, rfl⟩
    exact ⟨⟨entry, hentry, rfl⟩, hother⟩
  · rintro ⟨⟨entry, hentry, rfl⟩, hother⟩
    exact ⟨entry, ⟨hentry, hother⟩, rfl⟩

end Fields

end FlowPlan
