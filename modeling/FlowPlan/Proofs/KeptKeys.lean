import FlowPlan.Proofs.Place
import FlowPlan.Proofs.UnknownKeys

namespace FlowPlan

open Schema

/-- Lists that are related item by item have related items at each position. -/
theorem exists_of_getElem? {α β : Type} {R : α → β → Prop} {xs : List α} {ys : List β}
    (h : List.Forall₂ R xs ys) {index : ℕ} {x : α} (hx : xs[index]? = some x) :
    ∃ y, ys[index]? = some y ∧ R x y := by
  induction h generalizing index with
  | nil => cases hx
  | cons hfirst _ ih =>
    cases index with
    | zero =>
      cases hx
      exact ⟨_, rfl, hfirst⟩
    | succ index => exact ih hx

/-- What strict loading reads out of a mapping is written with all keys of the mapping. -/
theorem Schema.Reads.keys_subset {α : Type} {schema : Schema α} {emit : α → Document}
    {fields written : Fields} {a : α} (h : schema.Reads emit .strict fields a)
    (hemit : emit a = .mapping written) : ∀ key ∈ fields.keys, key ∈ written.keys := by
  intro key hkey
  obtain ⟨known, hknown, hmem⟩ := Fields.leftOver_eq_nil_iff.mp (h.known rfl) key hkey
  cases hemit.symm.trans hknown
  exact hmem

/-- An entry that is loaded strictly is written with all its keys, its type among them. -/
theorem Entity.Loads.keys_subset {α : Type} [Entity α] {fields : Fields} {a : α}
    (h : Loads .strict (.mapping fields) a) (hnodup : fields.keys.Nodup) :
    ∀ key ∈ fields.keys, key ∈ "type" :: (Entity.fields a).keys := by
  cases h with
  | mapping typed reads _ =>
  obtain ⟨known, hbody, hkeys⟩ := exists_body a
  intro key hkey
  by_cases htype : key = "type"
  · rw [htype]
    exact List.mem_cons_self
  · have hrest : key ∈ (Fields.takeOut "type" fields).keys :=
      (Fields.mem_keys_takeOut_iff hnodup).mpr ⟨hkey, htype⟩
    exact List.mem_cons_of_mem _ ((hkeys key).mp (reads.keys_subset hbody key hrest))

/-- Whether a schema builds piecewise links as their own schema does, if it builds any. -/
structure Schema.BuildsLinks (schema : Schema Node) : Prop where
  build_link : ∀ {fields : Fields} {link : PiecewiseLink},
    schema.build fields = .ok (.piecewiseLink link) →
      PiecewiseLink.schema.build fields = .ok link

theorem Schema.BuildsLinks.of_other {α : Type} {f : α → Node} {schema : Schema α}
    (h : ∀ a link, f a ≠ .piecewiseLink link) : (f <$> schema).BuildsLinks where
  build_link := by
    intro fields link hbuild
    obtain ⟨a, -, hlink⟩ := build_map_eq_ok_iff.mp hbuild
    exact absurd hlink (h a link)

namespace Node

/-- Of all types of nodes only one builds piecewise links. -/
theorem buildsLinks : ∀ entry ∈ registry.entries, entry.2.BuildsLinks := by
  apply Registry.forall_ofList Schema.BuildsLinks (by decide +kernel)
  simp only [List.forall_mem_cons]
  -- the link comes last of all types of nodes, and only its schema builds links
  refine ⟨.of_other ?_, .of_other ?_, .of_other ?_, .of_other ?_, .of_other ?_, .of_other ?_, ?_,
    List.forall_mem_nil _⟩
  case refine_7 =>
    constructor
    intro fields link hbuild
    obtain ⟨found, hfound, hlink⟩ := build_map_eq_ok_iff.mp hbuild
    cases hlink
    exact hfound
  all_goals
    intro node link hlink
    cases hlink

/-- Only piecewise links are written with steps. -/
theorem exists_link_of_mem_keys {node : Node} (h : "steps" ∈ node.fields.keys) :
    ∃ link, node = .piecewiseLink link := by
  cases node with
  | piecewiseLink link => exact ⟨link, rfl⟩
  | _ =>
    simp [fields, FlowNode.fields, StorageNode.fields, CatchmentNode.fields, AggregatedNode.fields,
      Fields.keys] at h

end Node

/-- The steps of a piecewise link are read off the items of a sequence, one by one. -/
theorem PiecewiseLink.exists_items_of_build {fields : Fields} {link : PiecewiseLink}
    (h : schema.build fields = .ok link) :
    ∃ items, fields.value? "steps" = some (.sequence items) ∧
      List.Forall₂ (fun item step => PiecewiseStep.read item = .ok step) items link.steps := by
  simp only [schema, build_seq_eq_ok_iff, build_map_eq_ok_iff] at h
  obtain ⟨_, steps, ⟨_, comment, ⟨name, -, rfl⟩, -, rfl⟩, hsteps, rfl⟩ := h
  unfold required field at hsteps
  dsimp only at hsteps
  split at hsteps
  · rename_i value hvalue
    cases value with
    | sequence items => exact ⟨items, hvalue, mapM_eq_ok_iff.mp hsteps⟩
    | _ => cases hsteps
  · cases hsteps

namespace Model

variable {model : Model} {fields entry : Fields} {index : ℕ} {required : Bool}

/-- The element of a section at a position is the item there. -/
theorem element?_mapping {sect : Section} {items : List Document}
    (h : sectionItems fields sect required = .ok items) (index : ℕ) :
    (Document.mapping fields).element? sect index = items[index]? := by
  show (fields.value? sect.key).bind (Document.item? index) = items[index]?
  rcases sectionItems_eq_ok_iff.mp h with hitems | ⟨-, rfl, hnone | hnull⟩
  · rw [hitems]
    rfl
  · rw [hnone]
    rfl
  · rw [hnull]
    rfl

/-- The entries of a section, as they are written. -/
theorem keeps_of_sectionLoads {α : Type} [Entity α]
    {collection : Collection α} (hloads : SectionLoads .strict fields required collection)
    (hproper : ∀ entry ∈ fields, entry.2.Proper)
    (hwritten : model.tree.element? (Entity.sect α) index =
      collection.entities[index]?.map Entity.toDocument)
    (hat : (Document.mapping fields).element? (Entity.sect α) index = some (.mapping entry)) :
    model.tree.Keeps (.entry (Entity.sect α) index) entry := by
  obtain ⟨items, hitems, hall⟩ := hloads
  rw [element?_mapping hitems] at hat
  obtain ⟨a, ha, hloads⟩ := exists_of_getElem? hall hat
  have hentry : (Document.mapping entry).Proper :=
    proper_sectionItems hproper hitems _ (List.mem_of_getElem? hat)
  rw [ha] at hwritten
  exact ⟨_, hwritten, hloads.keys_subset hentry.distinct_keys⟩

/-- The edges, as they are written. -/
theorem keeps_of_edges {items : List Document}
    (hitems : sectionItems fields .edges false = .ok items)
    (hloads : List.Forall₂ (Edge.Loads .strict) items model.edges)
    (hat : (Document.mapping fields).element? .edges index = some (.mapping entry)) :
    model.tree.Keeps (.entry .edges index) entry := by
  rw [element?_mapping hitems] at hat
  obtain ⟨edge, hedge, hloads⟩ := exists_of_getElem? hloads hat
  have hwritten : model.tree.element? .edges index = model.edges[index]?.map Edge.toDocument :=
    List.getElem?_map
  rw [hedge] at hwritten
  cases hloads with
  | mapping reads => exact ⟨edge.fields, hwritten, reads.keys_subset rfl⟩

/-- The schedule, as it is written. -/
theorem keeps_of_timestepper {document : Document}
    (hloads : Timestepper.Loads .strict document model.timestepper)
    (hat : document = .mapping entry) : model.tree.Keeps .timestepper entry := by
  cases hloads with
  | mapping reads valid =>
    cases hat
    exact ⟨model.timestepper.fields, rfl, reads.keys_subset rfl⟩

theorem mem_sections_of_known (h : unknownKeys fields = []) :
    ∀ key ∈ fields.keys, key ∈ sections.map Section.key := by
  intro key hkey
  simpa using List.filter_eq_nil_iff.mp h key hkey

theorem keeps_of_known (h : unknownKeys fields = []) : model.tree.Keeps .model fields :=
  ⟨_, rfl, mem_sections_of_known h⟩

/-- The entries of all sections are written with their keys. -/
theorem keeps_entry (hloads : Loads .strict fields model)
    (hproper : ∀ entry ∈ fields, entry.2.Proper) {sect : Section}
    (hat : (Document.mapping fields).element? sect index = some (.mapping entry)) :
    model.tree.Keeps (.entry sect index) entry := by
  cases sect with
  | model =>
    -- a key that names no section is unknown, and there is no section of this name
    obtain ⟨found, hfound, -⟩ := Option.bind_eq_some_iff.mp hat
    have hkey : Section.model.key ∈ fields.keys :=
      List.mem_map_of_mem (mem_of_lookup_eq_some hfound)
    have hknown := mem_sections_of_known (hloads.known rfl) _ hkey
    exact absurd hknown (by decide)
  | timestepper =>
    -- the schedule has no entries
    obtain ⟨found, hfound, hitem⟩ := Option.bind_eq_some_iff.mp hat
    obtain ⟨document, hdocument, hschedule⟩ := hloads.timestepper
    cases hfound.symm.trans hdocument
    cases hschedule with
    | mapping reads valid => cases hitem
  | nodes => exact keeps_of_sectionLoads hloads.nodes hproper List.getElem?_map hat
  | edges =>
    obtain ⟨items, hitems, hloads⟩ := hloads.edges
    exact keeps_of_edges hitems hloads hat
  | parameters => exact keeps_of_sectionLoads hloads.parameters hproper List.getElem?_map hat
  | recorders => exact keeps_of_sectionLoads hloads.recorders hproper List.getElem?_map hat
  | tables => exact keeps_of_sectionLoads hloads.tables hproper List.getElem?_map hat
  | outputs => exact keeps_of_sectionLoads hloads.outputs hproper List.getElem?_map hat

/-- The node that a step belongs to is a piecewise link. -/
theorem exists_link_of_loads {nodeFields : Fields} {steps : Document} {node : Node}
    (hloads : Entity.Loads .strict (.mapping nodeFields) node) (hnodup : nodeFields.keys.Nodup)
    (hsteps : nodeFields.value? "steps" = some steps) :
    ∃ link items, node = .piecewiseLink link ∧ steps = .sequence items ∧
      List.Forall₂ (fun item step => PiecewiseStep.read item = .ok step) items link.steps := by
  -- strict loading knows the key, and only links have one of this name
  have hkey : "steps" ∈ "type" :: node.fields.keys :=
    hloads.keys_subset hnodup _ (List.mem_map_of_mem (mem_of_lookup_eq_some hsteps))
  have hsteps_key : "steps" ∈ node.fields.keys :=
    (List.mem_cons.mp hkey).resolve_left (by decide)
  obtain ⟨link, rfl⟩ := Node.exists_link_of_mem_keys hsteps_key
  cases hloads with
  | @mapping _ schema _ typed reads _ =>
  have hbuilds : schema.BuildsLinks := Entity.forall_of_schemaOf? Node.buildsLinks typed
  have hbuild := hbuilds.build_link (check_bind_eq_ok_iff.mp reads.read).2
  obtain ⟨items, hitems, hall⟩ := PiecewiseLink.exists_items_of_build hbuild
  rw [Fields.value?_takeOut hnodup (by decide), hsteps] at hitems
  cases hitems
  exact ⟨link, items, rfl, rfl, hall⟩

/-- The keys of a step are written again where they are those of its fields, and not otherwise. -/
theorem keeps_step_iff (hloads : Loads .strict fields model)
    (hproper : ∀ entry ∈ fields, entry.2.Proper) {node : ℕ}
    (hat : (Document.mapping fields).step? node index = some (.mapping entry)) :
    model.tree.Keeps (.step node index) entry ↔
      ∀ key ∈ entry.keys, key ∈ PiecewiseStep.schema.keys := by
  obtain ⟨steps, hsteps, hitem⟩ := Option.bind_eq_some_iff.mp hat
  obtain ⟨found, hfound, hsteps⟩ := Option.bind_eq_some_iff.mp hsteps
  cases found with
  | mapping nodeFields =>
    obtain ⟨items, hitems, hall⟩ := hloads.nodes
    rw [show Section.nodes = Entity.sect Node from rfl, element?_mapping hitems] at hfound
    obtain ⟨a, ha, hnode⟩ := exists_of_getElem? hall hfound
    have hnodeFields : (Document.mapping nodeFields).Proper :=
      proper_sectionItems hproper hitems _ (List.mem_of_getElem? hfound)
    obtain ⟨link, stepItems, rfl, rfl, hread⟩ :=
      exists_link_of_loads hnode hnodeFields.distinct_keys hsteps
    obtain ⟨step, hstep, -⟩ := exists_of_getElem? hread hitem
    -- the step that is written at this place is the one that was read there
    have hwritten : model.tree.step? node index = some step.toDocument := by
      show (((model.nodes.entities.map Entity.toDocument)[node]?).bind
        (Document.under? "steps")).bind (Document.item? index) = _
      rw [List.getElem?_map, ha]
      show (link.steps.map PiecewiseStep.toDocument)[index]? = _
      rw [List.getElem?_map, hstep]
      rfl
    constructor
    · rintro ⟨others, hothers, hkeys⟩
      cases hwritten.symm.trans hothers
      exact hkeys
    · intro hkeys
      exact ⟨_, hwritten, hkeys⟩
  | _ => cases hsteps

/-- Strict loading drops no key but those of the steps of piecewise links: a mapping that describes
something is written again, at its place, with all keys that it has; a step with those of its
fields. -/
theorem keeps_keys_of_load? {document : Document} (hproper : document.Proper)
    (hload : load? .strict document = .ok model) {place : Place}
    (hat : document.at? place = some (.mapping entry)) :
    (¬place.IsStep → model.toDocument.Keeps place entry) ∧
      (place.IsStep → (model.toDocument.Keeps place entry ↔
        ∀ key ∈ entry.keys, key = "cost" ∨ key = "max_flow")) := by
  obtain ⟨fields, rfl, hloads⟩ := load?_eq_ok_iff.mp hload
  unfold toDocument
  rw [Document.keeps_finite_iff]
  -- each place has its own reader, and only that of the steps drops keys in silence
  cases place with
  | model =>
    cases hat
    exact ⟨fun _ => keeps_of_known (hloads.known rfl), False.elim⟩
  | timestepper =>
    obtain ⟨document, hdocument, hschedule⟩ := hloads.timestepper
    refine ⟨fun _ => keeps_of_timestepper hschedule ?_, False.elim⟩
    exact Option.some.inj (hdocument.symm.trans hat)
  | entry sect index => exact ⟨fun _ => keeps_entry hloads hproper.values hat, False.elim⟩
  | step node index =>
    refine ⟨fun hother => absurd trivial hother, fun _ => ?_⟩
    rw [keeps_step_iff hloads hproper.values hat]
    have hkeys : PiecewiseStep.schema.keys = ["cost", "max_flow"] := rfl
    rw [hkeys]
    simp only [List.mem_cons, List.not_mem_nil, or_false]

/-- A step of which a capacity is misspelt. -/
def slip : Fields :=
  [("max_flow", .number (.integer 5)), ("max_flw", .number (.integer 3))]

def sluice : Document :=
  .mapping [
    ("timestepper", .mapping [("start", .text "2021-01-01"), ("end", .text "2021-01-07"),
      ("timestep", .number (.integer 1))]),
    ("nodes", .sequence [
      .mapping [("type", .text "PiecewiseLink"), ("name", .text "pw"),
        ("steps", .sequence [.mapping slip])]])]

theorem proper_sluice : sluice.Proper := by
  have hnumbers : (Numeral.integer 1).toFloat.isFinite = true ∧
      (Numeral.integer 3).toFloat.isFinite = true ∧
      (Numeral.integer 5).toFloat.isFinite = true := by decide +kernel
  simp [sluice, slip, Fields.keys, hnumbers]

theorem exists_load?_sluice : ∃ model, load? .strict sluice = .ok model := by
  rw [← isSome_toOption_iff]
  decide +kernel

theorem keeps_keys_of_load?_sluice :
    ∃ model node, sluice.Proper ∧ load? .strict sluice = .ok model ∧
      sluice.at? (.entry .nodes 0) = some (.mapping node) ∧
      model.toDocument.Keeps (.entry .nodes 0) node ∧
      sluice.at? (.step 0 0) = some (.mapping slip) ∧
      ¬model.toDocument.Keeps (.step 0 0) slip := by
  obtain ⟨model, hload⟩ := exists_load?_sluice
  have hnode : sluice.at? (.entry .nodes 0) = some (.mapping _) := rfl
  have hstep : sluice.at? (.step 0 0) = some (.mapping slip) := rfl
  refine ⟨model, _, proper_sluice, hload, hnode, ?_, hstep, ?_⟩
  · exact (keeps_keys_of_load? proper_sluice hload hnode).1 id
  · rw [(keeps_keys_of_load? proper_sluice hload hstep).2 trivial]
    decide

/-- Strict loading does drop keys: the misspelt capacity of a step is not written again. -/
theorem not_keeps_all_keys :
    ¬∀ (document : Document) (model : Model) (place : Place) (entry : Fields),
      document.Proper → load? .strict document = .ok model →
        document.at? place = some (.mapping entry) → model.toDocument.Keeps place entry := by
  intro hall
  obtain ⟨model, hload⟩ := exists_load?_sluice
  obtain ⟨fields, hfields, hloads⟩ := load?_eq_ok_iff.mp hload
  cases hfields
  have hkeeps : model.toDocument.Keeps (.step 0 0) slip :=
    hall sluice model (.step 0 0) slip proper_sluice hload rfl
  have hkeys := (keeps_step_iff hloads proper_sluice.values rfl).mp
    (Document.keeps_finite_iff.mp hkeeps)
  exact absurd (hkeys "max_flw" (by decide)) (by decide)

end Model

end FlowPlan
