import FlowPlan.Proofs.Rewriting

namespace FlowPlan

open Schema

section

variable {α β : Type}

/-- Whether strict loading comes to what permissive loading comes to, or refuses unknown keys. -/
def Lenient (load : Strictness → Load α) : Prop :=
  (load .strict).result = (load .permissive).result ∨
    ∃ sect entity keys, keys ≠ [] ∧
      (load .strict).result = .error (.invalid sect entity (.unknownFields keys))

namespace Lenient

theorem const (load : Load α) : Lenient fun _ => load :=
  Or.inl rfl

theorem checkUnknown (sect : Section) (entity : Option String) (unknown : List String) :
    Lenient fun strictness => strictness.checkUnknown sect entity unknown := by
  cases unknown with
  | nil => exact Or.inl rfl
  | cons key rest => exact Or.inr ⟨sect, entity, key :: rest, List.cons_ne_nil _ _, rfl⟩

theorem bind {load : Strictness → Load α} {next : Strictness → α → Load β} (hload : Lenient load)
    (hnext : ∀ a, Lenient fun strictness => next strictness a) :
    Lenient fun strictness => load strictness >>= next strictness := by
  unfold Lenient
  rw [Load.result_bind, Load.result_bind]
  rcases hload with hsame | ⟨sect, entity, keys, hkeys, hrefused⟩
  · rw [hsame]
    cases (load .permissive).result with
    | error e => exact Or.inl rfl
    | ok a => exact hnext a
  · -- what comes next is not reached by strict loading
    rw [hrefused]
    exact Or.inr ⟨sect, entity, keys, hkeys, rfl⟩

/-- What strict loading accepts, permissive loading accepts as well. -/
theorem permissive_eq_ok {load : Strictness → Load α} (h : Lenient load) {a : α}
    (hstrict : (load .strict).result = .ok a) : (load .permissive).result = .ok a := by
  rcases h with hsame | ⟨sect, entity, keys, -, hrefused⟩
  · rw [← hsame, hstrict]
  · rw [hstrict] at hrefused
    cases hrefused

end Lenient

end

theorem Timestepper.lenient_load (document : Document) :
    Lenient fun strictness => load strictness document := by
  unfold load
  cases document with
  | mapping fields =>
    dsimp only
    cases schema.read fields with
    | error mismatch => exact .const _
    | ok timestepper =>
      exact .bind (.checkUnknown _ _ _) fun _ => .const _
  | _ => exact .const _

namespace Edge

theorem lenient_load (index : ℕ) (document : Document) :
    Lenient fun strictness => load strictness index document := by
  unfold load
  cases document with
  | mapping fields =>
    dsimp only
    cases schema.read fields with
    | error mismatch => exact .const _
    | ok edge => exact .bind (.checkUnknown _ _ _) fun _ => .const _
  | _ => exact .const _

theorem lenient_loadFrom (index : ℕ) (documents : List Document) :
    Lenient fun strictness => loadFrom strictness index documents := by
  induction documents generalizing index with
  | nil => exact .const _
  | cons document rest ih =>
    exact .bind (lenient_load index document) fun edge => .bind (ih (index + 1)) fun _ => .const _

end Edge

theorem Entity.lenient_load {α : Type} [Entity α] (index : ℕ) (document : Document) :
    Lenient fun strictness => (load strictness index document : Load α) := by
  unfold load
  cases document with
  | mapping fields =>
    refine .bind (.const _) fun type => .bind (.const _) fun schema => ?_
    dsimp only
    cases schema.read (Fields.takeOut "type" fields) with
    | error mismatch => exact .const _
    | ok a => exact .bind (.checkUnknown _ _ _) fun _ => .const _
  | _ => exact .const _

theorem Collection.lenient_loadFrom {α : Type} [Entity α] (collection : Collection α) (index : ℕ)
    (documents : List Document) :
    Lenient fun strictness => loadFrom strictness collection index documents := by
  induction documents generalizing collection index with
  | nil => exact .const _
  | cons document rest ih =>
    exact .bind (Entity.lenient_load index document) fun _ => .bind (.const _) fun next =>
      ih next (index + 1)

namespace Model

theorem lenient_loadSection {α : Type} [Entity α] (fields : Fields) (required : Bool) :
    Lenient fun strictness => loadSection α strictness fields required :=
  .bind (.const _) fun items => Collection.lenient_loadFrom .empty 0 items

theorem lenient_loadEdges (fields : Fields) :
    Lenient fun strictness => loadEdges strictness fields :=
  .bind (.const _) fun items => Edge.lenient_loadFrom 0 items

theorem lenient_loadTimestepper (fields : Fields) :
    Lenient fun strictness => loadTimestepper strictness fields := by
  unfold loadTimestepper
  cases fields.value? Section.timestepper.key with
  | none => exact .const _
  | some document => exact Timestepper.lenient_load document

theorem lenient_load (document : Document) :
    Lenient fun strictness => load strictness document := by
  unfold load
  cases document with
  | mapping fields =>
    exact .bind (.checkUnknown _ _ _) fun _ => .bind (lenient_loadTimestepper fields) fun _ =>
      .bind (lenient_loadSection fields true) fun _ => .bind (lenient_loadEdges fields) fun _ =>
      .bind (lenient_loadSection fields false) fun _ =>
      .bind (lenient_loadSection fields false) fun _ =>
      .bind (lenient_loadSection fields false) fun _ =>
      .bind (lenient_loadSection fields false) fun _ => .const _
  | _ => exact .const _

end Model

namespace Document

def restrict (keys : List String) : Document → Document
  | .mapping fields => .mapping (Fields.restrict keys fields)
  | other => other

def mapItems (change : Document → Document) : Document → Document
  | .sequence items => .sequence (items.map change)
  | other => other

end Document

def Entity.strip (α : Type) [Entity α] : Document → Document
  | .mapping fields =>
    match (schemaOf? fields : Option (Schema α)) with
    | some schema => .mapping (Fields.restrict ("type" :: schema.keys) fields)
    | none => .mapping fields
  | other => other

namespace Model

def stripSection : Section → Document → Document
  | .model => id
  | .timestepper => .restrict Timestepper.schema.keys
  | .nodes => .mapItems (Entity.strip Node)
  | .edges => .mapItems (.restrict Edge.schema.keys)
  | .parameters => .mapItems (Entity.strip Parameter)
  | .recorders => .mapItems (Entity.strip Recorder)
  | .tables => .mapItems (Entity.strip Table)
  | .outputs => .mapItems (Entity.strip Output)

def stripUnder (key : String) (value : Document) : Document :=
  match sections.find? fun sect => sect.key == key with
  | some sect => stripSection sect value
  | none => value

def stripFields (fields : Fields) : Fields :=
  (fields.restrict (sections.map Section.key)).map fun entry =>
    (entry.1, stripUnder entry.1 entry.2)

def strip : Document → Document
  | .mapping fields => .mapping (stripFields fields)
  | other => other

end Model

namespace Schema

variable {α : Type} {schema : Schema α} {emit : α → Document} {fields other : Fields} {a : α}

/-- Mappings that agree on what a schema knows read the same, strictly once nothing else is left. -/
theorem reads_strict_iff_permissive [schema.Lawful] (hrewrites : schema.Rewrites emit)
    (hfields : fields.keys.Nodup) (hother : other.keys.Nodup)
    (hknown : ∀ key ∈ other.keys, key ∈ schema.keys)
    (hsame : ∀ key ∈ schema.keys, other.value? key = fields.value? key) :
    schema.Reads emit .strict other a ↔ schema.Reads emit .permissive fields a := by
  -- reading only looks at the keys of the schema, under which both have the same values
  have hread : schema.read other = .ok a ↔ schema.read fields = .ok a :=
    read_congr hother hfields hsame
  constructor
  · exact fun h => ⟨hread.mp h.read, fun hstrict => by cases hstrict⟩
  · intro h
    have hbuild : schema.build other = .ok a := (read_eq_ok_iff hother).mp (hread.mpr h.read)
    refine ⟨hread.mpr h.read, fun _ => ?_⟩
    rw [hrewrites.leftOver_eq hbuild, List.filter_eq_nil_iff]
    simpa using hknown

/-- With the unknown keys taken out beforehand, strict reading is permissive reading. -/
theorem reads_restrict_iff [schema.Lawful] (hrewrites : schema.Rewrites emit)
    (hfields : fields.keys.Nodup) :
    schema.Reads emit .strict (fields.restrict schema.keys) a ↔
      schema.Reads emit .permissive fields a :=
  reads_strict_iff_permissive hrewrites hfields (Fields.nodup_keys_restrict _ hfields)
    (fun _ => Fields.mem_of_mem_keys_restrict) fun _ => Fields.value?_restrict

/-- The same for an entry, whose type is no field of its schema. -/
theorem reads_restrict_takeOut_iff [schema.Lawful] (hrewrites : schema.Rewrites emit)
    (hfields : fields.keys.Nodup) (huntyped : "type" ∉ schema.keys) :
    schema.Reads emit .strict (Fields.takeOut "type" (fields.restrict ("type" :: schema.keys))) a ↔
      schema.Reads emit .permissive (Fields.takeOut "type" fields) a := by
  have hrestrict : (fields.restrict ("type" :: schema.keys)).keys.Nodup :=
    Fields.nodup_keys_restrict _ hfields
  refine reads_strict_iff_permissive hrewrites (Fields.nodup_keys_takeOut hfields)
    (Fields.nodup_keys_takeOut hrestrict) ?_ ?_
  · intro key hkey
    obtain ⟨hmem, hother⟩ := (Fields.mem_keys_takeOut_iff hrestrict).mp hkey
    have hkept : key ∈ "type" :: schema.keys := Fields.mem_of_mem_keys_restrict hmem
    exact (List.mem_cons.mp hkept).resolve_left hother
  · intro key hkey
    have hother : key ≠ "type" := ne_of_mem_of_not_mem hkey huntyped
    rw [Fields.value?_takeOut hrestrict hother, Fields.value?_takeOut hfields hother]
    exact Fields.value?_restrict (List.mem_cons_of_mem _ hkey)

end Schema

theorem Timestepper.loads_restrict_iff {document : Document} (hproper : document.Proper)
    {timestepper : Timestepper} :
    Loads .strict (document.restrict schema.keys) timestepper ↔
      Loads .permissive document timestepper := by
  cases document with
  | mapping fields =>
    have hreads : schema.Reads toDocument .strict (Fields.restrict schema.keys fields) timestepper ↔
        schema.Reads toDocument .permissive fields timestepper :=
      reads_restrict_iff rewrites hproper.distinct_keys
    constructor
    · rintro ⟨h, hvalid⟩
      exact .mapping (hreads.mp h) hvalid
    · rintro ⟨h, hvalid⟩
      exact .mapping (hreads.mpr h) hvalid
  | _ =>
    constructor
    · intro h
      cases h
    · intro h
      cases h

theorem Edge.loads_restrict_iff {document : Document} (hproper : document.Proper) {edge : Edge} :
    Loads .strict (document.restrict schema.keys) edge ↔ Loads .permissive document edge := by
  cases document with
  | mapping fields =>
    have hreads : schema.Reads toDocument .strict (Fields.restrict schema.keys fields) edge ↔
        schema.Reads toDocument .permissive fields edge :=
      reads_restrict_iff rewrites hproper.distinct_keys
    constructor
    · rintro ⟨h⟩
      exact .mapping (hreads.mp h)
    · rintro ⟨h⟩
      exact .mapping (hreads.mpr h)
  | _ =>
    constructor
    · intro h
      cases h
    · intro h
      cases h

namespace Entity

variable {α : Type} [Entity α]

/-- The type of an entry stays, and with it the schema. -/
theorem schemaOf?_restrict {fields : Fields} {keys : List String} :
    (schemaOf? (fields.restrict ("type" :: keys)) : Option (Schema α)) = schemaOf? fields := by
  unfold schemaOf?
  rw [Fields.value?_restrict List.mem_cons_self]

/-- An entry that is stripped of its unknown keys loads strictly as it loads permissively otherwise.
-/
theorem loads_strip_iff [LawfulEntity α] [RewrittenEntity α] {document : Document}
    (hproper : document.Proper) {a : α} :
    Loads .strict (strip α document) a ↔ Loads .permissive document a := by
  cases document with
  | mapping fields =>
    cases hschema : (schemaOf? fields : Option (Schema α)) with
    | none =>
      -- an entry whose type stands for nothing is loaded neither way
      have hnever {strictness : Strictness} : ¬Loads strictness (.mapping fields) a := by
        rintro ⟨htyped, -, -⟩
        rw [hschema] at htyped
        cases htyped
      have hstrip : strip α (.mapping fields) = .mapping fields := by simp only [strip, hschema]
      rw [hstrip]
      exact iff_of_false hnever hnever
    | some schema =>
      have hlawful := lawful_of_schemaOf? hschema
      have := hlawful.lawful
      have hstrip : strip α (.mapping fields) =
          .mapping (Fields.restrict ("type" :: schema.keys) fields) := by
        simp only [strip, hschema]
      have hrewrites : schema.Rewrites body :=
        forall_of_schemaOf? (P := (Schema.Rewrites · body)) RewrittenEntity.schemas hschema
      have hreads := reads_restrict_takeOut_iff (a := a) hrewrites
        hproper.distinct_keys hlawful.untyped
      rw [hstrip]
      constructor
      · rintro ⟨htyped, h, hvalid⟩
        rw [schemaOf?_restrict, hschema] at htyped
        cases htyped
        exact .mapping hschema (hreads.mp h) hvalid
      · rintro ⟨htyped, h, hvalid⟩
        rw [hschema] at htyped
        cases htyped
        exact .mapping (schemaOf?_restrict.trans hschema) (hreads.mpr h) hvalid
  | _ =>
    constructor
    · intro h
      cases h
    · intro h
      cases h

end Entity

namespace Model

section

variable {fields : Fields} {sect : Section} {required : Bool}

/-- Stripping a document strips each of its sections by itself. -/
theorem value?_stripFields (hsect : sect ∈ sections) :
    (stripFields fields).value? sect.key =
      (fields.value? sect.key).map (stripSection sect) := by
  have hkey : sect.key ∈ sections.map Section.key := List.mem_map_of_mem hsect
  -- no two sections share a key, so a key finds its own section
  have hunder : stripUnder sect.key = stripSection sect := by
    cases sect with
    | model => exact absurd hsect (by decide)
    | _ => rfl
  have hmap : (stripFields fields).value? sect.key =
      ((fields.restrict (sections.map Section.key)).value? sect.key).map (stripUnder sect.key) :=
    lookup_map stripUnder
  rw [hmap, Fields.value?_restrict hkey, hunder]

theorem unknownKeys_stripFields : unknownKeys (stripFields fields) = [] := by
  unfold unknownKeys
  refine List.filter_eq_nil_iff.mpr fun key hkey => ?_
  have hkept : key ∈ (fields.restrict (sections.map Section.key)).keys := by
    unfold stripFields Fields.keys at hkey
    rwa [List.map_map] at hkey
  simpa using Fields.mem_of_mem_keys_restrict hkept

theorem sectionItems_stripFields (hsect : sect ∈ sections) {change : Document → Document}
    (hstrip : stripSection sect = .mapItems change) :
    sectionItems (stripFields fields) sect required =
      (sectionItems fields sect required).map (List.map change) := by
  unfold sectionItems
  rw [value?_stripFields hsect, hstrip]
  cases fields.value? sect.key with
  | none => cases required <;> rfl
  | some found =>
    cases found with
    | null => cases required <;> rfl
    | _ => rfl

theorem proper_sectionItems (hproper : ∀ entry ∈ fields, entry.2.Proper) {items : List Document}
    (h : sectionItems fields sect required = .ok items) : ∀ item ∈ items, item.Proper := by
  rcases sectionItems_eq_ok_iff.mp h with hitems | ⟨-, rfl, -⟩
  · exact (hproper _ (mem_of_lookup_eq_some hitems)).items
  · exact List.forall_mem_nil _

/-- What holds of stripped items as it holds of the items themselves, holds of a section. -/
theorem exists_stripped_items_iff {β : Type} {strict permissive : Document → β → Prop}
    {found : List β} (hproper : ∀ entry ∈ fields, entry.2.Proper) (hsect : sect ∈ sections)
    {change : Document → Document} (hstrip : stripSection sect = .mapItems change)
    (hitem : ∀ item : Document, item.Proper → ∀ b, strict (change item) b ↔ permissive item b) :
    (∃ items, sectionItems (stripFields fields) sect required = .ok items ∧
      List.Forall₂ strict items found) ↔
        ∃ items, sectionItems fields sect required = .ok items ∧
          List.Forall₂ permissive items found := by
  rw [sectionItems_stripFields hsect hstrip]
  -- only items of a proper document are stripped, and those one by one
  have hall {items : List Document} (hitems : sectionItems fields sect required = .ok items) :
      List.Forall₂ strict (items.map change) found ↔ List.Forall₂ permissive items found := by
    rw [List.forall₂_map_left_iff]
    exact forall₂_congr_of_mem fun item h =>
      hitem item (proper_sectionItems hproper hitems item h)
  constructor
  · rintro ⟨_, h, hloads⟩
    obtain ⟨items, hitems, rfl⟩ := map_eq_ok_iff.mp h
    exact ⟨items, hitems, (hall hitems).mp hloads⟩
  · rintro ⟨items, hitems, hloads⟩
    exact ⟨_, map_eq_ok_iff.mpr ⟨items, hitems, rfl⟩, (hall hitems).mpr hloads⟩

theorem timestepper_stripFields_iff (hproper : ∀ entry ∈ fields, entry.2.Proper)
    {timestepper : Timestepper} :
    (∃ document, (stripFields fields).value? Section.timestepper.key = some document ∧
      Timestepper.Loads .strict document timestepper) ↔
        ∃ document, fields.value? Section.timestepper.key = some document ∧
          Timestepper.Loads .permissive document timestepper := by
  rw [value?_stripFields (by decide)]
  -- stripping a section does not depend on the others
  cases hfound : fields.value? Section.timestepper.key with
  | none => simp
  | some document =>
    have hdocument : document.Proper := hproper _ (mem_of_lookup_eq_some hfound)
    have hsame : Timestepper.Loads .strict (stripSection .timestepper document) timestepper ↔
        Timestepper.Loads .permissive document timestepper :=
      Timestepper.loads_restrict_iff hdocument
    simpa using hsame

theorem edges_stripFields_iff (hproper : ∀ entry ∈ fields, entry.2.Proper) {edges : List Edge} :
    (∃ items, sectionItems (stripFields fields) .edges false = .ok items ∧
      List.Forall₂ (Edge.Loads .strict) items edges) ↔
        ∃ items, sectionItems fields .edges false = .ok items ∧
          List.Forall₂ (Edge.Loads .permissive) items edges :=
  exists_stripped_items_iff hproper (by decide) rfl fun _ hitem _ => Edge.loads_restrict_iff hitem

theorem sectionLoads_stripFields_iff {α : Type} [Entity α] [LawfulEntity α] [RewrittenEntity α]
    (hproper : ∀ entry ∈ fields, entry.2.Proper) (hsect : Entity.sect α ∈ sections)
    (hstrip : stripSection (Entity.sect α) = .mapItems (Entity.strip α))
    {collection : Collection α} :
    SectionLoads .strict (stripFields fields) required collection ↔
      SectionLoads .permissive fields required collection :=
  exists_stripped_items_iff hproper hsect hstrip fun _ hitem _ => Entity.loads_strip_iff hitem

end

/-- What is loaded strictly once unknown keys are left out is what is loaded permissively. -/
theorem loads_stripFields_iff {fields : Fields} (hproper : ∀ entry ∈ fields, entry.2.Proper)
    {model : Model} :
    Loads .strict (stripFields fields) model ↔ Loads .permissive fields model := by
  -- section by section: stripping leaves no unknown key, and takes away no known one
  constructor
  · intro h
    exact {
      known := fun hstrict => by cases hstrict
      timestepper := (timestepper_stripFields_iff hproper).mp h.timestepper
      nodes := (sectionLoads_stripFields_iff hproper (by decide) rfl).mp h.nodes
      edges := (edges_stripFields_iff hproper).mp h.edges
      parameters := (sectionLoads_stripFields_iff hproper (by decide) rfl).mp h.parameters
      recorders := (sectionLoads_stripFields_iff hproper (by decide) rfl).mp h.recorders
      tables := (sectionLoads_stripFields_iff hproper (by decide) rfl).mp h.tables
      outputs := (sectionLoads_stripFields_iff hproper (by decide) rfl).mp h.outputs
      path := h.path }
  · intro h
    exact {
      known := fun _ => unknownKeys_stripFields
      timestepper := (timestepper_stripFields_iff hproper).mpr h.timestepper
      nodes := (sectionLoads_stripFields_iff hproper (by decide) rfl).mpr h.nodes
      edges := (edges_stripFields_iff hproper).mpr h.edges
      parameters := (sectionLoads_stripFields_iff hproper (by decide) rfl).mpr h.parameters
      recorders := (sectionLoads_stripFields_iff hproper (by decide) rfl).mpr h.recorders
      tables := (sectionLoads_stripFields_iff hproper (by decide) rfl).mpr h.tables
      outputs := (sectionLoads_stripFields_iff hproper (by decide) rfl).mpr h.outputs
      path := h.path }

/-- A document that is stripped of its unknown keys loads strictly as it loads permissively
otherwise: section by section, since stripping works on them separately. -/
theorem load?_strict_strip_eq_ok_iff {document : Document} (hproper : document.Proper)
    {model : Model} :
    load? .strict (strip document) = .ok model ↔ load? .permissive document = .ok model := by
  rw [load?_eq_ok_iff, load?_eq_ok_iff]
  cases document with
  | mapping fields =>
    have hloads : Loads .strict (stripFields fields) model ↔ Loads .permissive fields model :=
      loads_stripFields_iff hproper.values
    constructor
    · rintro ⟨_, hstripped, h⟩
      cases hstripped
      exact ⟨fields, rfl, hloads.mp h⟩
    · rintro ⟨_, hsame, h⟩
      cases hsame
      exact ⟨_, rfl, hloads.mpr h⟩
  | _ =>
    constructor
    · rintro ⟨_, hmapping, -⟩
      cases hmapping
    · rintro ⟨_, hmapping, -⟩
      cases hmapping

/-- Strict loading refuses unknown keys, and that is all that tells it from permissive loading. -/
theorem strict_agrees_permissive {document : Document} (hproper : document.Proper) (model : Model) :
    (load? .strict document = .ok model → load? .permissive document = .ok model) ∧
      (load? .permissive document = .ok model →
        load? .strict document = .ok model ∨
          ∃ sect entity keys, keys ≠ [] ∧
            load? .strict document = .error (.invalid sect entity (.unknownFields keys))) ∧
      (load? .permissive document = .ok model ↔ load? .strict (strip document) = .ok model) := by
  -- the first two parts are about the course of loading, the last one about its outcome
  have hlenient : Lenient fun strictness => load strictness document := lenient_load document
  refine ⟨hlenient.permissive_eq_ok, fun hpermissive => ?_,
    (load?_strict_strip_eq_ok_iff hproper).symm⟩
  exact hlenient.imp_left fun hsame => hsame.trans hpermissive

/-- A ditch, with keys in all places that no section knows. -/
def ditch : Document :=
  .mapping [
    ("title", .text "Ditch"),
    ("timestepper", .mapping [("start", .text "2020-01-01"), ("end", .text "2020-01-31"),
      ("timestep", .number (.integer 1)), ("zone", .text "UTC")]),
    ("nodes", .sequence [
      .mapping [("name", .text "source"), ("colour", .text "blue"), ("type", .text "INPUT")],
      .mapping [("type", .text "Output"), ("name", .text "sink")]]),
    ("edges", .sequence [
      .mapping [("from_node", .text "source"), ("width", .number (.integer 2)),
        ("to_node", .text "sink")]])]

theorem proper_ditch : ditch.Proper := by
  have hnumbers : (Numeral.integer 1).toFloat.isFinite = true ∧
      (Numeral.integer 2).toFloat.isFinite = true := by decide +kernel
  simp [ditch, Fields.keys, hnumbers]

theorem strict_agrees_permissive_ditch :
    ditch.Proper ∧ ∃ model, load? .permissive ditch = .ok model ∧
      load? .strict (strip ditch) = .ok model ∧
      ∃ sect entity keys, keys ≠ [] ∧
        load? .strict ditch = .error (.invalid sect entity (.unknownFields keys)) := by
  have hpermissive : (load? .permissive ditch).toOption.isSome = true := by decide +kernel
  have hstrict : (load? .strict ditch).toOption.isSome = false := by decide +kernel
  obtain ⟨model, hload⟩ := isSome_toOption_iff.mp hpermissive
  obtain ⟨-, hrefused, hstrip⟩ := strict_agrees_permissive proper_ditch model
  refine ⟨proper_ditch, model, hload, hstrip.mp hload,
    (hrefused hload).resolve_left fun hsame => ?_⟩
  rw [hsame] at hstrict
  cases hstrict

end Model

end FlowPlan
