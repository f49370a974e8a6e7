import FlowPlan.Proofs.Entry
import FlowPlan.Proofs.Loading
import FlowPlan.Proofs.UnknownKeys

namespace FlowPlan

open Schema

/-- What a schema builds out of what is written, it reads under any policy on unknown keys. -/
theorem Schema.reads_of_build {α : Type} {schema : Schema α} [schema.Lawful]
    {emit : α → Document} {fields : Fields} {a : α} (hnodup : fields.keys.Nodup)
    (hemit : emit a = .mapping fields) (hbuild : schema.build fields = .ok a)
    (strictness : Strictness) : schema.Reads emit strictness fields a where
  read := (read_eq_ok_iff hnodup).mpr hbuild
  known := fun _ => Fields.leftOver_eq_nil_iff.mpr fun _ hkey => ⟨fields, hemit, hkey⟩

/-- A schedule that is written is loaded again, in either strictness, if it passes its check. -/
theorem Timestepper.load_toDocument (strictness : Strictness) (timestepper : Timestepper) :
    Load.result (load strictness timestepper.toDocument) =
      timestepper.validate.map fun _ => timestepper := by
  have hnodup : timestepper.fields.keys.Nodup :=
    show ["start", "end", "timestep"].Nodup by decide
  have hemit : timestepper.toDocument = .mapping timestepper.fields := rfl
  exact load_of_reads (reads_of_build hnodup hemit timestepper.build_fields strictness)

namespace Edge

theorem load_toDocument (strictness : Strictness) (index : ℕ) (edge : Edge) :
    Load.result (load strictness index edge.toDocument) = .ok edge := by
  have hnodup : edge.fields.keys.Nodup := show ["from_node", "to_node"].Nodup by decide
  have hemit : edge.toDocument = .mapping edge.fields := rfl
  exact load_of_reads (reads_of_build hnodup hemit edge.build_fields strictness)

theorem loadFrom_toDocument (strictness : Strictness) (index : ℕ) (edges : List Edge) :
    Load.result (loadFrom strictness index (edges.map toDocument)) = .ok edges := by
  refine loadFrom_eq_ok_iff.mpr ?_
  rw [List.forall₂_map_left_iff, List.forall₂_same]
  exact fun edge _ => load_eq_ok_iff.mp (load_toDocument strictness index edge)

end Edge

namespace Entity

variable {α : Type} [Entity α] [LawfulEntity α]

/-- An entry is written under its type and the fields of its type. -/
theorem exists_entrySchema (a : α) : ∃ schema : Schema α,
    EntrySchema LawfulEntity.numbers schema ∧ registry.find? (tag a) = some schema ∧
      schema.keys = (fields a).keys ∧ schema.build (fields a) = .ok a := by
  obtain ⟨schema, hfind, hkeys, hbuild⟩ := LawfulEntity.exists_schema a
  exact ⟨schema, Registry.forall_of_find? LawfulEntity.schemas hfind, hfind, hkeys, hbuild⟩

theorem nodup_keys (a : α) :
    (written a).keys.Nodup := by
  obtain ⟨schema, hlawful, -, hkeys, -⟩ := exists_entrySchema a
  refine List.nodup_cons.mpr ⟨?_, ?_⟩
  · have huntyped := hlawful.untyped
    rwa [hkeys] at huntyped
  · have hdistinct := hlawful.distinct
    rwa [hkeys] at hdistinct

/-- Without its type in front, what is written of an entry is read back as the entry. -/
theorem exists_reads_written (a : α) : ∃ schema : Schema α, registry.find? (tag a) = some schema ∧
    ∀ strictness, schema.Reads body strictness (Fields.takeOut "type" (written a)) a := by
  obtain ⟨schema, hlawful, hfind, -, hbuild⟩ := exists_entrySchema a
  have := hlawful.lawful
  have hnodup := nodup_keys a
  refine ⟨schema, hfind, reads_of_build (Fields.nodup_keys_takeOut hnodup) rfl ?_⟩
  -- the last field has moved to the front, but each still has its value
  rw [← hbuild]
  refine Lawful.build_congr fun key hkey => ?_
  have hother : key ≠ "type" := ne_of_mem_of_not_mem hkey hlawful.untyped
  rw [Fields.value?_takeOut hnodup hother]
  unfold Fields.value? written
  rw [List.lookup_cons, beq_eq_false_iff_ne.mpr hother]

/-- An entry that is written is loaded again, in either strictness, if it passes its check. -/
theorem load_toDocument (strictness : Strictness) (index : ℕ) (a : α) :
    Load.result (load strictness index (toDocument a)) = (validate a).map fun _ => a := by
  obtain ⟨schema, hfind, hreads⟩ := exists_reads_written a
  exact load_of_reads (show schemaOf? _ = some schema from hfind) (hreads strictness)

theorem proper_toDocument {a : α} (h : AllFinite (LawfulEntity.numbers a)) :
    (toDocument a).Proper :=
  .mapping (nodup_keys a) (List.forall_mem_cons.mpr ⟨.text, LawfulEntity.proper_fields h⟩)

/-- The numbers of an entry that is loaded are those of its document. -/
theorem Loads.finite {strictness : Strictness} {document : Document} {a : α}
    (hproper : document.Proper) (h : Loads strictness document a) :
    AllFinite (LawfulEntity.numbers a) := by
  obtain ⟨htyped, hreads, -⟩ := h
  have hlawful : EntrySchema LawfulEntity.numbers _ := lawful_of_schemaOf? htyped
  have := hlawful.lawful
  have hnodup := hproper.distinct_keys
  have hbuild := (read_eq_ok_iff (Fields.nodup_keys_takeOut hnodup)).mp hreads.read
  refine hlawful.finite_of_build (fun entry hentry => ?_) hbuild
  exact hproper.values entry ((Fields.mem_takeOut_iff hnodup).mp hentry).1

end Entity

namespace Collection

variable {α : Type} [Entity α] [LawfulEntity α]

/-- The entries of a collection are loaded one by one, each under a name that those before do not
have. -/
theorem loadFrom_toDocument (strictness : Strictness) {start collection : Collection α}
    {index : ℕ} {entities : List α} (h : start.entities ++ entities = collection.entities) :
    Load.result (loadFrom strictness start index (entities.map Entity.toDocument)) =
      (entities.forM Entity.validate).map fun _ => collection := by
  induction entities generalizing start index with
  | nil =>
    rw [List.append_nil] at h
    exact congrArg Except.ok (ext_entities h)
  | cons a rest ih =>
    obtain ⟨next, hinsert, hnext⟩ := exists_insert_eq_ok h.symm
    rw [List.map_cons, loadFrom, List.forM]
    refine Load.result_checked_bind (Entity.load_toDocument strictness index a) ?_
    refine Eq.trans (Load.result_bind_of_ok hinsert) ?_
    exact ih (by rw [hnext, ← List.append_cons, h])

theorem load_toDocument (strictness : Strictness) (collection : Collection α) :
    Load.result (load strictness (collection.entities.map Entity.toDocument)) =
      (collection.entities.forM Entity.validate).map fun _ => collection :=
  loadFrom_toDocument strictness rfl

theorem finite_toDocument {collection : Collection α}
    (h : ∀ a ∈ collection.entities, AllFinite (LawfulEntity.numbers a)) :
    collection.toDocument.finite = collection.toDocument :=
  Document.Proper.finite_eq (.sequence_map fun a ha => Entity.proper_toDocument (h a ha))

end Collection

namespace Model

/-- Whether all numbers that are written out in a model are finite. -/
structure Finite (model : Model) : Prop where
  nodes : ∀ node ∈ model.nodes.entities, AllFinite node.numbers
  parameters : ∀ p ∈ model.parameters.entities, AllFinite p.numbers

/-- The checks of a model's parts in the order of loading. The first one that fails decides. -/
def validate (model : Model) : Except ModelError Unit := do
  model.timestepper.validate
  model.nodes.entities.forM Entity.validate
  model.parameters.entities.forM Entity.validate
  model.recorders.entities.forM Entity.validate
  model.tables.entities.forM Entity.validate
  model.outputs.entities.forM Entity.validate

/-- No number of a model gets lost where all of them are finite. -/
theorem toDocument_eq_tree {model : Model} (h : model.Finite) : model.toDocument = model.tree := by
  -- dates are texts and the timestep is an integer, so a schedule stays as it is
  have htimestepper : model.timestepper.toDocument.finite = model.timestepper.toDocument := rfl
  have hedges : (Document.sequence (model.edges.map Edge.toDocument)).finite =
      .sequence (model.edges.map Edge.toDocument) :=
    Document.Proper.finite_eq (.sequence_map fun edge _ => edge.proper_toDocument)
  unfold toDocument tree
  rw [Document.finite, Document.finiteFields_eq_self]
  simp only [List.forall_mem_cons]
  exact ⟨htimestepper, Collection.finite_toDocument h.nodes, hedges,
    Collection.finite_toDocument h.parameters,
    Collection.finite_toDocument fun _ _ => allFinite_nil,
    Collection.finite_toDocument fun _ _ => allFinite_nil,
    Collection.finite_toDocument fun _ _ => allFinite_nil, List.forall_mem_nil _⟩

theorem loadSection_toDocument {α : Type} [Entity α] [LawfulEntity α] (strictness : Strictness)
    {fields : Fields} {required : Bool} {collection : Collection α}
    (h : fields.value? (Entity.sect α).key = some collection.toDocument) :
    Load.result (loadSection α strictness fields required) =
      (collection.entities.forM Entity.validate).map fun _ => collection := by
  have hitems : sectionItems fields (Entity.sect α) required =
      .ok (collection.entities.map Entity.toDocument) :=
    sectionItems_eq_ok_iff.mpr (.inl h)
  unfold loadSection
  exact Eq.trans (Load.result_bind_of_ok hitems) (Collection.load_toDocument strictness collection)

/-- A model that is written is loaded again if it passes its checks. Its path is no part of what is
written. -/
theorem load?_tree (strictness : Strictness) (model : Model) :
    load? strictness model.tree = model.validate.map fun _ => { model with path := none } := by
  change Load.result (load strictness model.tree) = _
  unfold load tree validate
  -- all keys are known and edges are always valid; every other step has its check
  refine Eq.trans (Load.result_bind_of_ok (a := ()) rfl) ?_
  refine Load.result_checked_bind (Timestepper.load_toDocument strictness model.timestepper) ?_
  refine Load.result_checked_bind (loadSection_toDocument strictness rfl) ?_
  refine Eq.trans (Load.result_bind_of_ok (Edge.loadFrom_toDocument strictness 0 model.edges)) ?_
  refine Load.result_checked_bind (loadSection_toDocument strictness rfl) ?_
  refine Load.result_checked_bind (loadSection_toDocument strictness rfl) ?_
  refine Load.result_checked_bind (loadSection_toDocument strictness rfl) ?_
  rw [Load.result_bind, loadSection_toDocument strictness rfl]
  cases model.outputs.entities.forM Entity.validate with
  | error e => rfl
  | ok passed => rfl

theorem SectionLoads.checked {α : Type} [Entity α] {strictness : Strictness} {fields : Fields}
    {required : Bool} {collection : Collection α}
    (h : SectionLoads strictness fields required collection) :
    collection.entities.forM Entity.validate = .ok () :=
  forM_eq_ok_iff.mpr fun a ha => Entity.validate_eq_ok_iff.mpr (h.valid a ha)

theorem SectionLoads.finite {α : Type} [Entity α] [LawfulEntity α] {strictness : Strictness}
    {fields : Fields} {required : Bool} {collection : Collection α}
    (hproper : ∀ entry ∈ fields, entry.2.Proper)
    (h : SectionLoads strictness fields required collection) :
    ∀ a ∈ collection.entities, AllFinite (LawfulEntity.numbers a) := by
  obtain ⟨items, hitems, hloads⟩ := h
  refine forall_mem_of_forall₂ hloads fun item hitem a ha => ?_
  exact ha.finite (proper_sectionItems hproper hitems item hitem)

namespace Loads

variable {strictness : Strictness} {fields : Fields} {model : Model}

/-- A model that is loaded from a proper document holds no infinite number. -/
theorem finite (h : Loads strictness fields model) (hproper : ∀ entry ∈ fields, entry.2.Proper) :
    model.Finite :=
  ⟨h.nodes.finite hproper, h.parameters.finite hproper⟩

/-- A model that is loaded passes all checks once more. -/
theorem checked (h : Loads strictness fields model) : model.validate = .ok () := by
  obtain ⟨document, -, htimestepper⟩ := h.timestepper
  cases htimestepper with
  | mapping _ hvalid =>
    unfold validate
    refine check_bind_eq_ok_iff.mpr ⟨hvalid, ?_⟩
    refine check_bind_eq_ok_iff.mpr ⟨h.nodes.checked, ?_⟩
    refine check_bind_eq_ok_iff.mpr ⟨h.parameters.checked, ?_⟩
    refine check_bind_eq_ok_iff.mpr ⟨h.recorders.checked, ?_⟩
    exact check_bind_eq_ok_iff.mpr ⟨h.tables.checked, h.outputs.checked⟩

end Loads

/-- A model that is written as a document is loaded back, unless a part of it is invalid; and what
is loaded can always be written and loaded again. -/
theorem reload_toDocument :
    (∀ model : Model, model.Finite → ∀ strictness,
      load? strictness model.toDocument =
        model.validate.map fun _ => { model with path := none }) ∧
    ∀ document : Document, document.Proper → ∀ strictness model,
      load? strictness document = .ok model →
        model.Finite ∧ model.validate = .ok () ∧
          ∀ again, load? again model.toDocument = .ok model := by
  have hwritten (model : Model) (hfinite : model.Finite) (strictness : Strictness) :
      load? strictness model.toDocument =
        model.validate.map fun _ => { model with path := none } := by
    rw [toDocument_eq_tree hfinite]
    exact load?_tree strictness model
  refine ⟨hwritten, fun document hproper strictness model hload => ?_⟩
  obtain ⟨fields, rfl, hloads⟩ := load?_eq_ok_iff.mp hload
  have hfinite : model.Finite := hloads.finite hproper.values
  -- what is loaded from a document has no path yet
  have hpath : { model with path := none } = model := by
    rw [← hloads.path]
  refine ⟨hfinite, hloads.checked, fun again => ?_⟩
  rw [hwritten model hfinite again, hloads.checked, ← hpath]
  rfl

/-- A model put together by hand, with a tank that holds more than it can. -/
def overfull : Model :=
  { Model.new ⟨⟨2020, 1, 1, by decide⟩, ⟨2020, 1, 31, by decide⟩, 1⟩ with
    nodes := ⟨[.storage ⟨"tank", none, none, 5, none, some (.constant 4)⟩], List.nodup_singleton _⟩
    path := some "models" }

theorem finite_overfull : overfull.Finite where
  nodes := List.forall_mem_singleton.mpr (by decide +kernel)
  parameters := List.forall_mem_nil _

theorem reload_toDocument_ditch :
    overfull.Finite ∧
      load? .strict overfull.toDocument =
        .error (.invalid .nodes (some "tank") (.initialVolumeAboveMaximum 5 4)) ∧
      ditch.Proper ∧ ∃ model, load? .permissive ditch = .ok model ∧
        load? .strict model.toDocument = .ok model := by
  have hinvalid : overfull.validate =
      .error (.invalid .nodes (some "tank") (.initialVolumeAboveMaximum 5 4)) := rfl
  have hditch : (load? .permissive ditch).toOption.isSome = true := by decide +kernel
  refine ⟨finite_overfull, ?_, proper_ditch, ?_⟩
  · rw [reload_toDocument.1 overfull finite_overfull .strict, hinvalid]
    rfl
  · obtain ⟨model, hload⟩ := isSome_toOption_iff.mp hditch
    obtain ⟨-, -, hagain⟩ := reload_toDocument.2 ditch proper_ditch .permissive model hload
    exact ⟨model, hload, hagain .strict⟩

end Model

end FlowPlan
