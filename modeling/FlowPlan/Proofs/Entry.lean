import FlowPlan.Proofs.Loads
import FlowPlan.Proofs.NodeEntry
import FlowPlan.Proofs.ParameterEntry

namespace FlowPlan

open Schema

structure EntrySchema {α : Type} (numbers : α → List Float) (schema : Schema α) : Prop where
  lawful : schema.Lawful
  /-- No field is in the way of the type. -/
  untyped : "type" ∉ schema.keys
  distinct : schema.keys.Nodup
  finite_of_build : ∀ {fields : Fields}, (∀ entry ∈ fields, entry.2.Proper) →
    ∀ {a : α}, schema.build fields = .ok a → AllFinite (numbers a)

/-- A schema is in order when the fields that it is made of have different keys, none of which is
the type. -/
theorem EntrySchema.map {α β : Type} {numbers : α → List Float} {f : β → α} {schema : Schema β}
    [schema.Lawful] (untyped : "type" ∉ schema.keys) (distinct : schema.keys.Nodup)
    (finite : ∀ {fields : Fields}, (∀ entry ∈ fields, entry.2.Proper) →
      ∀ {b : β}, schema.build fields = .ok b → AllFinite (numbers (f b))) :
    EntrySchema numbers (f <$> schema) where
  lawful := inferInstance
  untyped := untyped
  distinct := distinct
  finite_of_build := by
    intro fields hproper a h
    obtain ⟨b, hb, rfl⟩ := build_map_eq_ok_iff.mp h
    exact finite hproper hb

class LawfulEntity (α : Type) [Entity α] where
  /-- The numbers that are written out in an entry. -/
  numbers : α → List Float
  schemas : ∀ entry ∈ (Entity.registry : Registry (Schema α)).entries, EntrySchema numbers entry.2
  /-- An engine is told the type that an entry is written with. -/
  tag_eq : ∀ a : α, Entity.tag a = Entity.typeName a
  /-- An entry is written with all its fields, and read back from them. -/
  exists_schema : ∀ a : α, ∃ schema : Schema α,
    Entity.registry.find? (Entity.tag a) = some schema ∧
      schema.keys = (Entity.fields a).keys ∧ schema.build (Entity.fields a) = .ok a
  proper_fields : ∀ {a : α}, AllFinite (numbers a) → ∀ entry ∈ Entity.fields a, entry.2.Proper

/-- What holds of all registered schemas holds of the schema of an entry. -/
theorem Entity.forall_of_schemaOf? {α : Type} [Entity α] {P : Schema α → Prop}
    (hall : ∀ entry ∈ (registry : Registry (Schema α)).entries, P entry.2) {fields : Fields}
    {schema : Schema α} (h : schemaOf? fields = some schema) : P schema := by
  unfold schemaOf? at h
  split at h
  · exact Registry.forall_of_find? hall h
  · cases h

/-- Whatever type an entry carries, its schema is in order. -/
theorem Entity.lawful_of_schemaOf? {α : Type} [Entity α] [LawfulEntity α] {fields : Fields}
    {schema : Schema α} (h : schemaOf? fields = some schema) :
    EntrySchema LawfulEntity.numbers schema :=
  forall_of_schemaOf? LawfulEntity.schemas h

namespace Node

def numbers : Node → List Float
  | input node => node.numbers
  | link node => node.numbers
  | output node => node.numbers
  | storage node => node.numbers
  | catchment node => node.numbers
  | aggregated node => node.numbers
  | piecewiseLink node => node.numbers

theorem entrySchemas : ∀ entry ∈ registry.entries, EntrySchema numbers entry.2 := by
  apply Registry.forall_ofList (EntrySchema numbers) (by decide +kernel)
  simp only [List.forall_mem_cons]
  have hflow {f : FlowNode → Node} (h : ∀ node, (f node).numbers = node.numbers) :
      EntrySchema numbers (f <$> FlowNode.schema) := by
    refine .map (by decide) (by decide) fun hproper node hbuild => ?_
    rw [h]
    exact FlowNode.finite_of_build hproper hbuild
  exact ⟨hflow fun _ => rfl, hflow fun _ => rfl, hflow fun _ => rfl,
    .map (by decide) (by decide) StorageNode.finite_of_build,
    .map (by decide) (by decide) CatchmentNode.finite_of_build,
    .map (by decide) (by decide) AggregatedNode.finite_of_build,
    .map (by decide) (by decide) PiecewiseLink.finite_of_build, List.forall_mem_nil _⟩

theorem tag_eq (node : Node) : node.tag = node.typeName := by
  cases node with
  | _ => rfl

/-- Each kind of node is found in the registry under its tag, and read back from its fields. -/
theorem exists_schema (node : Node) : ∃ schema : Schema Node,
    registry.find? node.tag = some schema ∧ schema.keys = node.fields.keys ∧
      schema.build node.fields = .ok node := by
  -- the names of the types are distinct, so each finds its own schema
  have hfind {name : String} {schema : Schema Node} (h : (name, schema) ∈ _) :
    registry.find? name = some schema := Registry.find?_of_mem (by decide +kernel) h
  cases node with
  | input node => exact ⟨_, hfind (by simp [tag]), rfl, build_map node.build_fields⟩
  | link node => exact ⟨_, hfind (by simp [tag]), rfl, build_map node.build_fields⟩
  | output node => exact ⟨_, hfind (by simp [tag]), rfl, build_map node.build_fields⟩
  | storage node => exact ⟨_, hfind (by simp [tag]), rfl, build_map node.build_fields⟩
  | catchment node => exact ⟨_, hfind (by simp [tag]), rfl, build_map node.build_fields⟩
  | aggregated node => exact ⟨_, hfind (by simp [tag]), rfl, build_map node.build_fields⟩
  | piecewiseLink node => exact ⟨_, hfind (by simp [tag]), rfl, build_map node.build_fields⟩

/-- Nodes with finite numbers are written as documents that JSON can hold. -/
theorem proper_fields {node : Node} (h : AllFinite node.numbers) :
    ∀ entry ∈ node.fields, entry.2.Proper := by
  cases node with
  | input node => exact FlowNode.proper_fields h
  | link node => exact FlowNode.proper_fields h
  | output node => exact FlowNode.proper_fields h
  | storage node => exact StorageNode.proper_fields h
  | catchment node => exact CatchmentNode.proper_fields h
  | aggregated node => exact AggregatedNode.proper_fields h
  | piecewiseLink node => exact PiecewiseLink.proper_fields h

instance : LawfulEntity Node where
  numbers := numbers
  schemas := entrySchemas
  tag_eq := tag_eq
  exists_schema := exists_schema
  proper_fields := proper_fields

end Node

namespace Parameter

theorem entrySchemas : ∀ entry ∈ registry.entries, EntrySchema numbers entry.2 := by
  apply Registry.forall_ofList (EntrySchema numbers) (by decide +kernel)
  simp only [List.forall_mem_cons]
  exact ⟨.map (by decide) (by decide) finite_of_build_constant,
    .map (by decide) (by decide) finite_of_build_aggregated,
    .map (by decide) (by decide) finite_of_build_negative,
    .map (by decide) (by decide) finite_of_build_max,
    .map (by decide) (by decide) finite_of_build_polynomial,
    .map (by decide) (by decide) finite_of_build_monthlyProfile,
    .map (by decide) (by decide) finite_of_build_controlCurveIndex,
    .map (by decide) (by decide) finite_of_build_controlCurveInterpolated,
    .map (by decide) (by decide) finite_of_build_threshold,
    .map (by decide) (by decide) fun _ _ _ => allFinite_nil, List.forall_mem_nil _⟩

theorem tag_eq (p : Parameter) : p.tag = p.typeName := by
  cases p with
  | _ => rfl

/-- Each kind of parameter is found in the registry under its tag, and read back from its fields. -/
theorem exists_schema (p : Parameter) : ∃ schema : Schema Parameter,
    registry.find? p.tag = some schema ∧ schema.keys = p.fields.keys ∧
      schema.build p.fields = .ok p := by
  have hfind {name : String} {schema : Schema Parameter} (h : (name, schema) ∈ _) :
    registry.find? name = some schema := Registry.find?_of_mem (by decide +kernel) h
  cases p with
  | constant p => exact ⟨_, hfind (by simp [tag]), rfl, build_map (build_constant p)⟩
  | aggregated p => exact ⟨_, hfind (by simp [tag]), rfl, build_map (build_aggregated p)⟩
  | negative p => exact ⟨_, hfind (by simp [tag]), rfl, build_map (build_negative p)⟩
  | max p => exact ⟨_, hfind (by simp [tag]), rfl, build_map (build_max p)⟩
  | polynomial p => exact ⟨_, hfind (by simp [tag]), rfl, build_map (build_polynomial p)⟩
  | monthlyProfile p =>
    exact ⟨_, hfind (by simp [tag]), rfl, build_map (build_monthlyProfile p)⟩
  | controlCurveIndex p =>
    exact ⟨_, hfind (by simp [tag]), rfl, build_map (build_controlCurveIndex p)⟩
  | controlCurveInterpolated p =>
    exact ⟨_, hfind (by simp [tag]), rfl, build_map (build_controlCurveInterpolated p)⟩
  | threshold p => exact ⟨_, hfind (by simp [tag]), rfl, build_map (build_threshold p)⟩
  | dataFrame p => exact ⟨_, hfind (by simp [tag]), rfl, build_map (build_dataFrame p)⟩

instance : LawfulEntity Parameter where
  numbers := numbers
  schemas := entrySchemas
  tag_eq := tag_eq
  exists_schema := exists_schema
  proper_fields := proper_fields

end Parameter

namespace Recorder

instance : nodeSchema.Lawful := by
  unfold nodeSchema
  infer_instance

instance : parameterSchema.Lawful := by
  unfold parameterSchema
  infer_instance

theorem build_nodeFields (recorder : NodeRecorder) :
    nodeSchema.build (nodeFields recorder) = .ok recorder := by
  cases recorder
  apply build_seq _ (build_text rfl)
  exact build_head rfl rfl

theorem build_parameter (recorder : ParameterRecorder) :
    parameterSchema.build (parameter recorder).fields = .ok recorder := by
  cases recorder
  apply build_seq _ (build_text rfl)
  exact build_head rfl rfl

theorem tag_eq (recorder : Recorder) : recorder.tag = recorder.typeName := by
  cases recorder with
  | _ => rfl

theorem exists_schema (recorder : Recorder) : ∃ schema : Schema Recorder,
    registry.find? recorder.tag = some schema ∧ schema.keys = recorder.fields.keys ∧
      schema.build recorder.fields = .ok recorder := by
  have hfind {name : String} {schema : Schema Recorder} (h : (name, schema) ∈ _) :
    registry.find? name = some schema := Registry.find?_of_mem (by decide +kernel) h
  cases recorder with
  | nodeFlow recorder =>
    exact ⟨_, hfind (by simp [tag]), rfl, build_map (build_nodeFields recorder)⟩
  | storageVolume recorder =>
    exact ⟨_, hfind (by simp [tag]), rfl, build_map (build_nodeFields recorder)⟩
  | parameter recorder =>
    exact ⟨_, hfind (by simp [tag]), rfl, build_map (build_parameter recorder)⟩

theorem proper_fields (recorder : Recorder) : ∀ entry ∈ recorder.fields, entry.2.Proper := by
  cases recorder with
  | _ =>
    simp only [fields, nodeFields, List.forall_mem_cons]
    exact ⟨.text, .optional fun _ _ => .text, .text, List.forall_mem_nil _⟩

/-- Recorders have no numbers. -/
instance : LawfulEntity Recorder where
  numbers := fun _ => []
  schemas := by
    apply Registry.forall_ofList (EntrySchema fun _ => []) (by decide +kernel)
    simp only [List.forall_mem_cons]
    exact ⟨.map (by decide) (by decide) fun _ _ _ => allFinite_nil,
      .map (by decide) (by decide) fun _ _ _ => allFinite_nil,
      .map (by decide) (by decide) fun _ _ _ => allFinite_nil, List.forall_mem_nil _⟩
  tag_eq := tag_eq
  exists_schema := exists_schema
  proper_fields := fun _ => proper_fields _

end Recorder

namespace Table

instance : csvSchema.Lawful := by
  unfold csvSchema
  infer_instance

instance : hdfSchema.Lawful := by
  unfold hdfSchema
  infer_instance

theorem build_csv (table : CsvTable) : csvSchema.build (csv table).fields = .ok table := by
  cases table
  apply build_seq _ (build_optionalText rfl)
  apply build_seq _ (build_required Reader.inverts_path rfl)
  exact build_head rfl rfl

theorem build_hdf (table : HdfTable) : hdfSchema.build (hdf table).fields = .ok table := by
  cases table
  apply build_seq _ (build_text rfl)
  apply build_seq _ (build_required Reader.inverts_path rfl)
  exact build_head rfl rfl

theorem tag_eq (table : Table) : table.tag = table.typeName := by
  cases table with
  | _ => rfl

theorem exists_schema (table : Table) : ∃ schema : Schema Table,
    registry.find? table.tag = some schema ∧ schema.keys = table.fields.keys ∧
      schema.build table.fields = .ok table := by
  have hfind {name : String} {schema : Schema Table} (h : (name, schema) ∈ _) :
    registry.find? name = some schema := Registry.find?_of_mem (by decide +kernel) h
  cases table with
  | csv table => exact ⟨_, hfind (by simp [tag]), rfl, build_map (build_csv table)⟩
  | hdf table => exact ⟨_, hfind (by simp [tag]), rfl, build_map (build_hdf table)⟩

theorem proper_fields (table : Table) : ∀ entry ∈ table.fields, entry.2.Proper := by
  cases table with
  | csv table =>
    simp only [fields, List.forall_mem_cons]
    exact ⟨.text, .optional fun _ _ => .text, .text, .optional fun _ _ => .text,
      List.forall_mem_nil _⟩
  | hdf table =>
    simp only [fields, List.forall_mem_cons]
    exact ⟨.text, .optional fun _ _ => .text, .text, .text, List.forall_mem_nil _⟩

/-- Tables have no numbers. -/
instance : LawfulEntity Table where
  numbers := fun _ => []
  schemas := by
    apply Registry.forall_ofList (EntrySchema fun _ => []) (by decide +kernel)
    simp only [List.forall_mem_cons]
    exact ⟨.map (by decide) (by decide) fun _ _ _ => allFinite_nil,
      .map (by decide) (by decide) fun _ _ _ => allFinite_nil, List.forall_mem_nil _⟩
  tag_eq := tag_eq
  exists_schema := exists_schema
  proper_fields := fun _ => proper_fields _

end Table

namespace Output

instance : schema.Lawful := by
  unfold schema
  infer_instance

theorem build_fileFields (output : FileOutput) :
    schema.build (fileFields output) = .ok output := by
  cases output
  apply build_seq _ (build_required Reader.inverts_path rfl)
  exact build_head rfl rfl

theorem tag_eq (output : Output) : output.tag = output.typeName := by
  cases output with
  | _ => rfl

theorem exists_schema (output : Output) : ∃ schema : Schema Output,
    registry.find? output.tag = some schema ∧ schema.keys = output.fields.keys ∧
      schema.build output.fields = .ok output := by
  have hfind {name : String} {schema : Schema Output} (h : (name, schema) ∈ _) :
    registry.find? name = some schema := Registry.find?_of_mem (by decide +kernel) h
  cases output with
  | hdf5 output => exact ⟨_, hfind (by simp [tag]), rfl, build_map (build_fileFields output)⟩
  | csv output => exact ⟨_, hfind (by simp [tag]), rfl, build_map (build_fileFields output)⟩

theorem proper_fields (output : Output) : ∀ entry ∈ output.fields, entry.2.Proper := by
  cases output with
  | _ =>
    simp only [fields, fileFields, List.forall_mem_cons]
    exact ⟨.text, .optional fun _ _ => .text, .text, List.forall_mem_nil _⟩

/-- Outputs have no numbers. -/
instance : LawfulEntity Output where
  numbers := fun _ => []
  schemas := by
    apply Registry.forall_ofList (EntrySchema fun _ => []) (by decide +kernel)
    simp only [List.forall_mem_cons]
    exact ⟨.map (by decide) (by decide) fun _ _ _ => allFinite_nil,
      .map (by decide) (by decide) fun _ _ _ => allFinite_nil, List.forall_mem_nil _⟩
  tag_eq := tag_eq
  exists_schema := exists_schema
  proper_fields := fun _ => proper_fields _

end Output

end FlowPlan
