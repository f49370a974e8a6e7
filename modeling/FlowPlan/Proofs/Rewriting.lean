import FlowPlan.Proofs.Entry
import FlowPlan.Proofs.Untyped

namespace FlowPlan

/-- Whether all that a schema builds is written with the keys of the schema, and with no others. -/
structure Schema.Rewrites {α : Type} (schema : Schema α) (emit : α → Document) : Prop where
  exists_keys : ∀ {fields : Fields} {a : α}, schema.build fields = .ok a →
    ∃ known : Fields, emit a = .mapping known ∧ ∀ key, key ∈ known.keys ↔ key ∈ schema.keys

/-- The keys that are not written again are those that the schema does not know. -/
theorem Schema.Rewrites.leftOver_eq {α : Type} {schema : Schema α} {emit : α → Document}
    {fields : Fields} {a : α} (h : schema.Rewrites emit) (hbuild : schema.build fields = .ok a)
    (others : Fields) :
    others.leftOver (emit a) = others.keys.filter fun key => !schema.keys.contains key := by
  obtain ⟨known, hemit, hkeys⟩ := h.exists_keys hbuild
  rw [hemit]
  refine List.filter_congr fun key _ => congrArg not ?_
  rw [Bool.eq_iff_iff, List.contains_iff_mem, List.contains_iff_mem]
  exact hkeys key

theorem Timestepper.rewrites : schema.Rewrites toDocument where
  exists_keys := fun _ => ⟨_, rfl, fun _ => Iff.rfl⟩

theorem Edge.rewrites : schema.Rewrites toDocument where
  exists_keys := fun _ => ⟨_, rfl, fun _ => Iff.rfl⟩

namespace Entity

/-- An entry is written with the keys of its fields, and with its type. -/
theorem exists_body {α : Type} [Entity α] (a : α) :
    ∃ known : Fields, body a = .mapping known ∧ ∀ key, key ∈ known.keys ↔ key ∈ (fields a).keys :=
  ⟨_, rfl, fun _ => ((Fields.takeOut_cons_perm "type" _ (fields a)).map Prod.fst).mem_iff⟩

/-- A schema under a constructor emits what it emits without, if the constructor's body has the same
keys. -/
theorem rewrites_map {α β : Type} [Entity α] {f : β → α} {schema : Schema β}
    (h : ∀ b, (fields (f b)).keys = schema.keys) : (f <$> schema).Rewrites body where
  exists_keys := by
    intro found a hbuild
    obtain ⟨b, -, rfl⟩ := Schema.build_map_eq_ok_iff.mp hbuild
    obtain ⟨known, hbody, hkeys⟩ := exists_body (f b)
    rw [h b] at hkeys
    exact ⟨known, hbody, hkeys⟩

end Entity

/-- Kinds of entries that are written with all their fields, whatever is in them. -/
class RewrittenEntity (α : Type) [Entity α] : Prop where
  schemas : ∀ entry ∈ (Entity.registry : Registry (Schema α)).entries, entry.2.Rewrites Entity.body

open Entity

instance : RewrittenEntity Node where
  schemas := by
    show ∀ entry ∈ Node.registry.entries, entry.2.Rewrites body
    apply Registry.forall_ofList (Schema.Rewrites · body) (by decide +kernel)
    simp only [List.forall_mem_cons]
    exact ⟨rewrites_map fun _ => rfl, rewrites_map fun _ => rfl, rewrites_map fun _ => rfl,
      rewrites_map fun _ => rfl, rewrites_map fun _ => rfl, rewrites_map fun _ => rfl,
      rewrites_map fun _ => rfl, List.forall_mem_nil _⟩

instance : RewrittenEntity Parameter where
  schemas := by
    show ∀ entry ∈ Parameter.registry.entries, entry.2.Rewrites body
    apply Registry.forall_ofList (Schema.Rewrites · body) (by decide +kernel)
    simp only [List.forall_mem_cons]
    exact ⟨rewrites_map fun _ => rfl, rewrites_map fun _ => rfl, rewrites_map fun _ => rfl,
      rewrites_map fun _ => rfl, rewrites_map fun _ => rfl, rewrites_map fun _ => rfl,
      rewrites_map fun _ => rfl, rewrites_map fun _ => rfl, rewrites_map fun _ => rfl,
      rewrites_map fun _ => rfl, List.forall_mem_nil _⟩

instance : RewrittenEntity Recorder where
  schemas := by
    show ∀ entry ∈ Recorder.registry.entries, entry.2.Rewrites body
    apply Registry.forall_ofList (Schema.Rewrites · body) (by decide +kernel)
    simp only [List.forall_mem_cons]
    exact ⟨rewrites_map fun _ => rfl, rewrites_map fun _ => rfl, rewrites_map fun _ => rfl,
      List.forall_mem_nil _⟩

instance : RewrittenEntity Table where
  schemas := by
    show ∀ entry ∈ Table.registry.entries, entry.2.Rewrites body
    apply Registry.forall_ofList (Schema.Rewrites · body) (by decide +kernel)
    simp only [List.forall_mem_cons]
    exact ⟨rewrites_map fun _ => rfl, rewrites_map fun _ => rfl, List.forall_mem_nil _⟩

instance : RewrittenEntity Output where
  schemas := by
    show ∀ entry ∈ Output.registry.entries, entry.2.Rewrites body
    apply Registry.forall_ofList (Schema.Rewrites · body) (by decide +kernel)
    simp only [List.forall_mem_cons]
    exact ⟨rewrites_map fun _ => rfl, rewrites_map fun _ => rfl, List.forall_mem_nil _⟩

end FlowPlan
