import FlowPlan.Model.Load
import FlowPlan.Proofs.Registry
import FlowPlan.Proofs.Result

namespace FlowPlan

namespace Load

variable {α β : Type}

def result (load : Load α) : Except ModelError α :=
  load.run.value

/-- The result of two steps of loading, whatever they log. -/
theorem result_bind (x : Load α) (f : α → Load β) :
    result (x >>= f) = result x >>= fun a => result (f a) := by
  unfold result
  rw [ExceptT.run_bind, Logged.value_bind]
  rcases x.run.value with e | a
  · rfl
  · rfl

theorem result_bind_eq_ok_iff {x : Load α} {f : α → Load β} {b : β} :
    result (x >>= f) = .ok b ↔ ∃ a, result x = .ok a ∧ result (f a) = .ok b := by
  rw [result_bind, bind_eq_ok_iff]

theorem result_bind_of_ok {x : Load α} {f : α → Load β} {a : α} (h : result x = .ok a) :
    result (x >>= f) = result (f a) := by
  rw [result_bind, h]
  rfl

/-- The same for a check, which comes to nothing but a success. -/
theorem result_check_bind_eq_ok_iff {x : Load Unit} {f : Unit → Load β} {b : β} :
    result (x >>= f) = .ok b ↔ result x = .ok () ∧ result (f ()) = .ok b := by
  rw [result_bind, check_bind_eq_ok_iff]

/-- Where a step comes to what its check says, the check stands in front of what follows. -/
theorem result_checked_bind {x : Load α} {f : α → Load β} {check : Except ModelError Unit}
    {rest : Unit → Except ModelError Unit} {a : α} {b : β}
    (h : result x = check.map fun _ => a) (hrest : result (f a) = (rest ()).map fun _ => b) :
    result (x >>= f) = (check >>= rest).map fun _ => b := by
  rw [result_bind, h]
  cases check with
  | error e => rfl
  | ok passed => exact hrest

end Load

/-- Unknown keys only stop strict loading. -/
theorem Strictness.checkUnknown_eq_ok_iff {strictness : Strictness} {sect : Section}
    {entity : Option String} {unknown : List String} :
    Load.result (strictness.checkUnknown sect entity unknown) = .ok () ↔
      (strictness = .strict → unknown = []) := by
  unfold checkUnknown
  cases unknown with
  | nil => exact ⟨fun _ _ => rfl, fun _ => rfl⟩
  | cons key rest =>
    cases strictness with
    | strict =>
      constructor
      · intro h
        cases h
      · intro h
        cases h rfl
    | permissive =>
      constructor
      · intro _ hstrict
        cases hstrict
      · exact fun _ => rfl

/-- Whether a value is read out of a mapping. Strict loading wants all keys of the mapping in the
document that is written for the value. -/
structure Schema.Reads {α : Type} (schema : Schema α) (emit : α → Document)
    (strictness : Strictness) (fields : Fields) (a : α) : Prop where
  read : schema.read fields = .ok a
  known : strictness = .strict → fields.leftOver (emit a) = []

inductive Timestepper.Loads (strictness : Strictness) : Document → Timestepper → Prop
  | mapping {fields : Fields} {timestepper : Timestepper}
      (reads : schema.Reads toDocument strictness fields timestepper)
      (valid : timestepper.validate = .ok ()) : Loads strictness (.mapping fields) timestepper

/-- A schedule whose fields are read is loaded if it passes its check. -/
theorem Timestepper.load_of_reads {strictness : Strictness} {fields : Fields}
    {timestepper : Timestepper} (h : schema.Reads toDocument strictness fields timestepper) :
    Load.result (load strictness (.mapping fields)) =
      timestepper.validate.map fun _ => timestepper := by
  unfold load
  dsimp only
  rw [h.read]
  refine Eq.trans (Load.result_bind_of_ok (Strictness.checkUnknown_eq_ok_iff.mpr h.known)) ?_
  rw [Load.result_bind]
  rfl

theorem Timestepper.load_eq_ok_iff {strictness : Strictness} {document : Document}
    {timestepper : Timestepper} :
    Load.result (load strictness document) = .ok timestepper ↔
      Loads strictness document timestepper := by
  constructor
  · intro h
    cases document with
    | mapping fields =>
      unfold load at h
      dsimp only at h
      cases hread : schema.read fields with
      | error mismatch =>
        rw [hread] at h
        cases h
      | ok found =>
        rw [hread] at h
        obtain ⟨hunknown, h⟩ := Load.result_check_bind_eq_ok_iff.mp h
        obtain ⟨hvalid, h⟩ := Load.result_check_bind_eq_ok_iff.mp h
        cases h
        exact .mapping ⟨hread, Strictness.checkUnknown_eq_ok_iff.mp hunknown⟩ hvalid
    | _ => cases h
  · rintro ⟨hreads, hvalid⟩
    rw [load_of_reads hreads, hvalid]
    rfl

inductive Edge.Loads (strictness : Strictness) : Document → Edge → Prop
  | mapping {fields : Fields} {edge : Edge}
      (reads : schema.Reads toDocument strictness fields edge) :
      Loads strictness (.mapping fields) edge

namespace Edge

theorem load_of_reads {strictness : Strictness} {index : ℕ} {fields : Fields} {edge : Edge}
    (h : schema.Reads toDocument strictness fields edge) :
    Load.result (load strictness index (.mapping fields)) = .ok edge := by
  unfold load
  dsimp only
  rw [h.read]
  exact Load.result_bind_of_ok (Strictness.checkUnknown_eq_ok_iff.mpr h.known)

theorem load_eq_ok_iff {strictness : Strictness} {index : ℕ} {document : Document} {edge : Edge} :
    Load.result (load strictness index document) = .ok edge ↔ Loads strictness document edge := by
  constructor
  · intro h
    cases document with
    | mapping fields =>
      unfold load at h
      dsimp only at h
      cases hread : schema.read fields with
      | error mismatch =>
        rw [hread] at h
        cases h
      | ok found =>
        rw [hread] at h
        obtain ⟨hunknown, h⟩ := Load.result_check_bind_eq_ok_iff.mp h
        cases h
        exact .mapping ⟨hread, Strictness.checkUnknown_eq_ok_iff.mp hunknown⟩
    | _ => cases h
  · rintro ⟨hreads⟩
    exact load_of_reads hreads

/-- Edges are loaded one by one, in their order. -/
theorem loadFrom_eq_ok_iff {strictness : Strictness} {index : ℕ} {documents : List Document}
    {edges : List Edge} :
    Load.result (loadFrom strictness index documents) = .ok edges ↔
      List.Forall₂ (Loads strictness) documents edges := by
  induction documents generalizing index edges with
  | nil =>
    rw [List.forall₂_nil_left_iff]
    exact ⟨fun h => by cases h; rfl, fun h => by rw [h]; rfl⟩
  | cons document rest ih =>
    rw [List.forall₂_cons_left_iff, loadFrom, Load.result_bind_eq_ok_iff]
    constructor
    · rintro ⟨edge, hedge, h⟩
      obtain ⟨others, hothers, h⟩ := Load.result_bind_eq_ok_iff.mp h
      cases h
      exact ⟨edge, others, load_eq_ok_iff.mp hedge, ih.mp hothers, rfl⟩
    · rintro ⟨edge, others, hedge, hothers, rfl⟩
      exact ⟨edge, load_eq_ok_iff.mpr hedge,
        Load.result_bind_eq_ok_iff.mpr ⟨others, ih.mpr hothers, rfl⟩⟩

end Edge

def Entity.schemaOf? {α : Type} [Entity α] (fields : Fields) : Option (Schema α) :=
  match fields.value? "type" with
  | some (.text type) => registry.find? type
  | _ => none

/-- Whether an entry is loaded out of a document. Its place in the section does not matter. -/
inductive Entity.Loads {α : Type} [Entity α] (strictness : Strictness) : Document → α → Prop
  | mapping {fields : Fields} {schema : Schema α} {a : α}
      (typed : schemaOf? fields = some schema)
      (reads : schema.Reads body strictness (Fields.takeOut "type" fields) a)
      (valid : validate a = .ok ()) : Loads strictness (.mapping fields) a

namespace Entity

variable {α : Type} [Entity α]

theorem schemaOf?_eq_some_iff {index : ℕ} {fields : Fields} {schema : Schema α} :
    schemaOf? fields = some schema ↔
      ∃ type, typeOf (sect α) index fields = .ok type ∧ registry.resolve type = .ok schema := by
  unfold schemaOf? typeOf
  cases fields.value? "type" with
  | none => simp
  | some found => cases found <;> simp [Registry.resolve_eq_ok_iff]

/-- An entry whose type is registered and whose fields are read is loaded if it passes its check. -/
theorem load_of_reads {strictness : Strictness} {index : ℕ} {fields : Fields} {schema : Schema α}
    {a : α} (htyped : schemaOf? fields = some schema)
    (h : schema.Reads body strictness (Fields.takeOut "type" fields) a) :
    Load.result (load strictness index (.mapping fields)) = (validate a).map fun _ => a := by
  obtain ⟨type, htype, hschema⟩ := schemaOf?_eq_some_iff.mp htyped
  unfold load
  -- all steps before the last one succeed, and the last one is the check of the entry
  refine Eq.trans (Load.result_bind_of_ok htype) ?_
  refine Eq.trans (Load.result_bind_of_ok hschema) ?_
  dsimp only
  rw [h.read]
  refine Eq.trans (Load.result_bind_of_ok (Strictness.checkUnknown_eq_ok_iff.mpr h.known)) ?_
  rw [Load.result_bind]
  rfl

/-- An entry is loaded when its type is registered, its fields are read, no key is refused and the
check is passed. -/
theorem load_eq_ok_iff {strictness : Strictness} {index : ℕ} {document : Document} {a : α} :
    Load.result (load strictness index document) = .ok a ↔ Loads strictness document a := by
  constructor
  · intro h
    unfold load at h
    cases document with
    | mapping fields =>
      obtain ⟨type, htype, h⟩ := Load.result_bind_eq_ok_iff.mp h
      obtain ⟨schema, hschema, h⟩ := Load.result_bind_eq_ok_iff.mp h
      dsimp only at h
      cases hread : schema.read (Fields.takeOut "type" fields) with
      | error mismatch =>
        rw [hread] at h
        cases h
      | ok entity =>
        rw [hread] at h
        obtain ⟨hunknown, h⟩ := Load.result_check_bind_eq_ok_iff.mp h
        obtain ⟨hvalid, h⟩ := Load.result_check_bind_eq_ok_iff.mp h
        cases h
        exact .mapping (schemaOf?_eq_some_iff.mpr ⟨type, htype, hschema⟩)
          ⟨hread, Strictness.checkUnknown_eq_ok_iff.mp hunknown⟩ hvalid
    | _ => cases h
  · rintro ⟨htyped, hreads, hvalid⟩
    rw [load_of_reads htyped hreads, hvalid]
    rfl

end Entity

namespace Collection

variable {α : Type} [Entity α]

theorem ext_entities {first second : Collection α} (h : first.entities = second.entities) :
    first = second := by
  cases first
  cases second
  cases h
  rfl

/-- An entry is added at the end, where its name is free. -/
theorem insert_eq_ok_iff {collection next : Collection α} {a : α} :
    collection.insert a = .ok next ↔ next.entities = collection.entities ++ [a] := by
  unfold insert
  constructor
  · intro h
    split at h
    · cases h
    · cases h
      rfl
  · intro h
    have hnodup : ((collection.entities ++ [a]).map Entity.name).Nodup := h ▸ next.nodup
    rw [List.map_append, List.nodup_append] at hnodup
    have hfree : Entity.name a ∉ collection.names := fun htaken =>
      hnodup.2.2 _ htaken _ (List.mem_singleton.mpr rfl) rfl
    rw [dif_neg hfree]
    exact congrArg Except.ok (ext_entities h.symm)

/-- An entry is refused exactly when its name is taken. -/
theorem insert_eq_error_iff {collection : Collection α} {a : α} {e : ModelError} :
    collection.insert a = .error e ↔
      Entity.name a ∈ collection.names ∧
        e = .duplicateName (Entity.sect α) (Entity.name a) := by
  unfold insert
  split
  · rename_i htaken
    simp [htaken, eq_comm]
  · rename_i hfree
    simp [hfree]

/-- The next entry of a collection finds its name free among those before it. -/
theorem exists_insert_eq_ok {start collection : Collection α} {a : α} {rest : List α}
    (h : collection.entities = start.entities ++ a :: rest) :
    ∃ next, start.insert a = .ok next ∧ next.entities = start.entities ++ [a] := by
  have hnodup : ((start.entities ++ [a]).map Entity.name).Nodup := by
    have hall := collection.nodup
    rw [h, List.append_cons, List.map_append] at hall
    exact hall.of_append_left
  exact ⟨⟨_, hnodup⟩, insert_eq_ok_iff.mpr rfl, rfl⟩

/-- A section adds to a collection what its documents load as. The names differ because collections
have no name twice. -/
theorem loadFrom_eq_ok_iff {strictness : Strictness} {documents : List Document} {index : ℕ}
    {start collection : Collection α} :
    Load.result (loadFrom strictness start index documents) = .ok collection ↔
      ∃ loaded, List.Forall₂ (Entity.Loads strictness) documents loaded ∧
        collection.entities = start.entities ++ loaded := by
  induction documents generalizing index start with
  | nil =>
    constructor
    · intro h
      cases h
      exact ⟨[], .nil, (List.append_nil _).symm⟩
    · rintro ⟨loaded, hloaded, h⟩
      cases hloaded
      rw [List.append_nil] at h
      exact congrArg Except.ok (ext_entities h.symm)
  | cons document rest ih =>
    rw [loadFrom, Load.result_bind_eq_ok_iff]
    constructor
    · rintro ⟨a, ha, h⟩
      obtain ⟨next, hnext, h⟩ := Load.result_bind_eq_ok_iff.mp h
      obtain ⟨loaded, hloaded, h⟩ := ih.mp h
      refine ⟨a :: loaded, .cons (Entity.load_eq_ok_iff.mp ha) hloaded, ?_⟩
      rw [h, insert_eq_ok_iff.mp hnext, List.append_assoc, List.singleton_append]
    · rintro ⟨_, hloaded, h⟩
      obtain ⟨a, loaded, ha, hrest, rfl⟩ := List.forall₂_cons_left_iff.mp hloaded
      obtain ⟨next, hinsert, hnext⟩ := exists_insert_eq_ok h
      refine ⟨a, Entity.load_eq_ok_iff.mpr ha, Load.result_bind_eq_ok_iff.mpr ?_⟩
      refine ⟨next, hinsert, ih.mpr ⟨loaded, hrest, ?_⟩⟩
      rw [h, hnext, ← List.append_cons]

theorem load_eq_ok_iff {strictness : Strictness} {documents : List Document}
    {collection : Collection α} :
    Load.result (load strictness documents) = .ok collection ↔
      List.Forall₂ (Entity.Loads strictness) documents collection.entities := by
  unfold load
  rw [loadFrom_eq_ok_iff]
  constructor
  · rintro ⟨loaded, hloaded, h⟩
    rwa [h]
  · exact fun h => ⟨_, h, rfl⟩

end Collection

namespace Model

/-- The entries of a section are those of its sequence; a section that may be left out has none
where it is missing or null. -/
theorem sectionItems_eq_ok_iff {fields : Fields} {sect : Section} {required : Bool}
    {items : List Document} :
    sectionItems fields sect required = .ok items ↔
      fields.value? sect.key = some (.sequence items) ∨
        required = false ∧ items = [] ∧
          (fields.value? sect.key = none ∨ fields.value? sect.key = some .null) := by
  unfold sectionItems
  cases fields.value? sect.key with
  | none => cases required <;> simp [eq_comm]
  | some found =>
    cases found with
    | null => cases required <;> simp [eq_comm]
    | _ => simp

/-- Whether the entries of a section are loaded out of a document. -/
def SectionLoads {α : Type} [Entity α] (strictness : Strictness) (fields : Fields)
    (required : Bool) (collection : Collection α) : Prop :=
  ∃ items, sectionItems fields (Entity.sect α) required = .ok items ∧
    List.Forall₂ (Entity.Loads strictness) items collection.entities

theorem loadSection_eq_ok_iff {α : Type} [Entity α] {strictness : Strictness} {fields : Fields}
    {required : Bool} {collection : Collection α} :
    Load.result (loadSection α strictness fields required) = .ok collection ↔
      SectionLoads strictness fields required collection := by
  unfold loadSection
  rw [Load.result_bind_eq_ok_iff]
  exact exists_congr fun items => and_congr Iff.rfl Collection.load_eq_ok_iff

theorem loadEdges_eq_ok_iff {strictness : Strictness} {fields : Fields} {edges : List Edge} :
    Load.result (loadEdges strictness fields) = .ok edges ↔
      ∃ items, sectionItems fields .edges false = .ok items ∧
        List.Forall₂ (Edge.Loads strictness) items edges := by
  unfold loadEdges
  rw [Load.result_bind_eq_ok_iff]
  exact exists_congr fun items => and_congr Iff.rfl Edge.loadFrom_eq_ok_iff

/-- There has to be a schedule. -/
theorem loadTimestepper_eq_ok_iff {strictness : Strictness} {fields : Fields}
    {timestepper : Timestepper} :
    Load.result (loadTimestepper strictness fields) = .ok timestepper ↔
      ∃ document, fields.value? Section.timestepper.key = some document ∧
        Timestepper.Loads strictness document timestepper := by
  unfold loadTimestepper
  cases fields.value? Section.timestepper.key with
  | none =>
    constructor
    · intro h
      cases h
    · rintro ⟨document, hdocument, -⟩
      cases hdocument
  | some document =>
    rw [Timestepper.load_eq_ok_iff]
    constructor
    · exact fun h => ⟨document, rfl, h⟩
    · rintro ⟨_, hdocument, h⟩
      cases hdocument
      exact h

structure Loads (strictness : Strictness) (fields : Fields) (model : Model) : Prop where
  known : strictness = .strict → unknownKeys fields = []
  timestepper : ∃ document, fields.value? Section.timestepper.key = some document ∧
    Timestepper.Loads strictness document model.timestepper
  nodes : SectionLoads strictness fields true model.nodes
  edges : ∃ items, sectionItems fields .edges false = .ok items ∧
    List.Forall₂ (Edge.Loads strictness) items model.edges
  parameters : SectionLoads strictness fields false model.parameters
  recorders : SectionLoads strictness fields false model.recorders
  tables : SectionLoads strictness fields false model.tables
  outputs : SectionLoads strictness fields false model.outputs
  path : model.path = none

/-- A model is loaded out of a mapping when each of its sections is. -/
theorem load?_eq_ok_iff {strictness : Strictness} {document : Document} {model : Model} :
    load? strictness document = .ok model ↔
      ∃ fields, document = .mapping fields ∧ Loads strictness fields model := by
  change Load.result (load strictness document) = .ok model ↔ _
  -- loading is a chain of steps, each of which has to succeed, and has its own criterion
  constructor
  · intro h
    cases document with
    | mapping fields =>
      obtain ⟨hknown, h⟩ := Load.result_check_bind_eq_ok_iff.mp h
      obtain ⟨timestepper, htimestepper, h⟩ := Load.result_bind_eq_ok_iff.mp h
      obtain ⟨nodes, hnodes, h⟩ := Load.result_bind_eq_ok_iff.mp h
      obtain ⟨edges, hedges, h⟩ := Load.result_bind_eq_ok_iff.mp h
      obtain ⟨parameters, hparameters, h⟩ := Load.result_bind_eq_ok_iff.mp h
      obtain ⟨recorders, hrecorders, h⟩ := Load.result_bind_eq_ok_iff.mp h
      obtain ⟨tables, htables, h⟩ := Load.result_bind_eq_ok_iff.mp h
      obtain ⟨outputs, houtputs, h⟩ := Load.result_bind_eq_ok_iff.mp h
      cases h
      exact ⟨fields, rfl, {
        known := Strictness.checkUnknown_eq_ok_iff.mp hknown
        timestepper := loadTimestepper_eq_ok_iff.mp htimestepper
        nodes := loadSection_eq_ok_iff.mp hnodes
        edges := loadEdges_eq_ok_iff.mp hedges
        parameters := loadSection_eq_ok_iff.mp hparameters
        recorders := loadSection_eq_ok_iff.mp hrecorders
        tables := loadSection_eq_ok_iff.mp htables
        outputs := loadSection_eq_ok_iff.mp houtputs
        path := rfl }⟩
    | _ => cases h
  · rintro ⟨fields, rfl, h⟩
    unfold load
    dsimp only
    refine Load.result_check_bind_eq_ok_iff.mpr
      ⟨Strictness.checkUnknown_eq_ok_iff.mpr h.known, ?_⟩
    refine Load.result_bind_eq_ok_iff.mpr ⟨_, loadTimestepper_eq_ok_iff.mpr h.timestepper, ?_⟩
    refine Load.result_bind_eq_ok_iff.mpr ⟨_, loadSection_eq_ok_iff.mpr h.nodes, ?_⟩
    refine Load.result_bind_eq_ok_iff.mpr ⟨_, loadEdges_eq_ok_iff.mpr h.edges, ?_⟩
    refine Load.result_bind_eq_ok_iff.mpr ⟨_, loadSection_eq_ok_iff.mpr h.parameters, ?_⟩
    refine Load.result_bind_eq_ok_iff.mpr ⟨_, loadSection_eq_ok_iff.mpr h.recorders, ?_⟩
    refine Load.result_bind_eq_ok_iff.mpr ⟨_, loadSection_eq_ok_iff.mpr h.tables, ?_⟩
    refine Load.result_bind_eq_ok_iff.mpr ⟨_, loadSection_eq_ok_iff.mpr h.outputs, ?_⟩
    have hpath : none = model.path := h.path.symm
    cases model
    cases hpath
    rfl

end Model

end FlowPlan
