import FlowPlan.Proofs.Lookup
import FlowPlan.Proofs.Result
import FlowPlan.Schema

namespace FlowPlan

class Schema.Lawful {α : Type} (schema : Schema α) : Prop where
  build_congr : ∀ {first second : Fields},
    (∀ key ∈ schema.keys, first.value? key = second.value? key) →
      schema.build first = schema.build second
  check_of_build : ∀ {fields : Fields} {a : α}, schema.build fields = .ok a →
    ∀ {key : String} {check : Document → Except Mismatch Unit}, (key, check) ∈ schema.checks →
      ∀ {value : Document}, fields.value? key = some value → check value = .ok ()

namespace Schema

variable {α β : Type} {fields other : Fields}

section

theorem build_map_eq_ok_iff {f : α → β} {schema : Schema α} {b : β} :
    (f <$> schema).build fields = .ok b ↔ ∃ a, schema.build fields = .ok a ∧ f a = b := by
  change f <$> schema.build fields = .ok b ↔ _
  cases schema.build fields with
  | error e => simp
  | ok a => simp

/-- Two fields are read when each is. -/
theorem build_seq_eq_ok_iff {f : Schema (α → β)} {schema : Schema α} {b : β} :
    (f <*> schema).build fields = .ok b ↔
      ∃ g a, f.build fields = .ok g ∧ schema.build fields = .ok a ∧ g a = b := by
  change (f.build fields >>= fun g => schema.build fields >>= fun a => pure (g a)) = .ok b ↔ _
  simp only [bind_eq_ok_iff]
  constructor
  · rintro ⟨g, hg, a, ha, hb⟩
    cases hb
    exact ⟨g, a, hg, ha, rfl⟩
  · rintro ⟨g, a, hg, ha, rfl⟩
    exact ⟨g, hg, a, ha, rfl⟩

instance (name : String) (read : Reader α) (absent : Except Mismatch α) :
    (field name read absent).Lawful where
  build_congr := by
    intro first second h
    unfold field
    dsimp only
    rw [h name (List.mem_singleton.mpr rfl)]
  check_of_build := by
    intro fields a hbuild key check hcheck value hvalue
    cases List.mem_singleton.mp hcheck
    have hread : read value = .ok a := by
      unfold field at hbuild
      dsimp only at hbuild
      rwa [hvalue] at hbuild
    change (read value).map (fun _ => ()) = .ok ()
    rw [hread]
    rfl

instance (name : String) (read : Reader α) : (required name read).Lawful := by
  unfold required
  infer_instance

instance (name : String) (read : Reader α) : (optional name read).Lawful := by
  unfold optional
  infer_instance

instance (name : String) (default : α) (read : Reader α) :
    (defaulted name default read).Lawful := by
  unfold defaulted
  infer_instance

instance (f : α → β) (schema : Schema α) [schema.Lawful] : (f <$> schema).Lawful where
  build_congr := by
    intro first second h
    have hschema : schema.build first = schema.build second := Lawful.build_congr h
    exact congrArg (f <$> ·) hschema
  check_of_build := by
    intro fields b hbuild key check hcheck value hvalue
    obtain ⟨a, ha, -⟩ := build_map_eq_ok_iff.mp hbuild
    exact Lawful.check_of_build ha hcheck hvalue

instance (f : Schema (α → β)) (schema : Schema α) [f.Lawful] [schema.Lawful] :
    (f <*> schema).Lawful where
  build_congr := by
    intro first second h
    have hkeys : (f <*> schema).keys = f.keys ++ schema.keys := List.map_append
    rw [hkeys, List.forall_mem_append] at h
    have hf : f.build first = f.build second := Lawful.build_congr h.1
    have hschema : schema.build first = schema.build second := Lawful.build_congr h.2
    change (f.build first >>= fun g => schema.build first >>= fun a => pure (g a)) =
      (f.build second >>= fun g => schema.build second >>= fun a => pure (g a))
    rw [hf, hschema]
  check_of_build := by
    intro fields b hbuild key check hcheck value hvalue
    obtain ⟨g, a, hg, ha, -⟩ := build_seq_eq_ok_iff.mp hbuild
    rcases List.mem_append.mp hcheck with hcheck | hcheck
    · exact Lawful.check_of_build hg hcheck hvalue
    · exact Lawful.check_of_build ha hcheck hvalue

end

section

variable {schema : Schema α} [schema.Lawful] {a : α}

/-- Where keys are distinct, what can be built has passed all checks. -/
theorem read_eq_ok_iff (hnodup : fields.keys.Nodup) :
    schema.read fields = .ok a ↔ schema.build fields = .ok a := by
  unfold read
  rw [check_bind_eq_ok_iff]
  refine and_iff_right_of_imp fun hbuild => ?_
  unfold check
  refine forM_eq_ok_iff.mpr fun (key, value) hentry => ?_
  dsimp only
  cases hcheck : schema.checks.lookup key with
  | none => rfl
  | some check =>
    have hvalue : fields.value? key = some value := (lookup_eq_some_iff_mem hnodup).mpr hentry
    exact Lawful.check_of_build hbuild (mem_of_lookup_eq_some hcheck) hvalue

/-- Only the values under the keys of a schema matter to it. -/
theorem read_congr (hfields : fields.keys.Nodup) (hother : other.keys.Nodup)
    (h : ∀ key ∈ schema.keys, fields.value? key = other.value? key) :
    schema.read fields = .ok a ↔ schema.read other = .ok a := by
  rw [read_eq_ok_iff hfields, read_eq_ok_iff hother, Lawful.build_congr h]

end

end Schema

end FlowPlan
