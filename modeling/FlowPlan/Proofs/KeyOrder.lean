import FlowPlan.Proofs.Reordering
import FlowPlan.Proofs.UnknownKeys

namespace FlowPlan

open Schema

/-- Kinds of entries of which no schema makes anything of the order of keys. -/
class UnorderedEntity (α : Type) [Entity α] : Prop where
  schemas : ∀ entry ∈ (Entity.registry : Registry (Schema α)).entries, entry.2.Unordered

instance : UnorderedEntity Node where
  schemas := by
    show ∀ entry ∈ Node.registry.entries, entry.2.Unordered
    apply Registry.forall_ofList Schema.Unordered (by decide +kernel)
    simp only [List.forall_mem_cons, FlowNode.schema, StorageNode.schema, CatchmentNode.schema,
      AggregatedNode.schema, PiecewiseLink.schema]
    exact ⟨inferInstance, inferInstance, inferInstance, inferInstance, inferInstance,
      inferInstance, inferInstance, List.forall_mem_nil _⟩

instance : UnorderedEntity Parameter where
  schemas := by
    show ∀ entry ∈ Parameter.registry.entries, entry.2.Unordered
    apply Registry.forall_ofList Schema.Unordered (by decide +kernel)
    simp only [List.forall_mem_cons, Parameter.constantSchema, Parameter.aggregatedSchema,
      Parameter.negativeSchema, Parameter.maxSchema, Parameter.polynomialSchema,
      Parameter.monthlyProfileSchema, Parameter.controlCurveIndexSchema,
      Parameter.controlCurveInterpolatedSchema, Parameter.thresholdSchema,
      Parameter.dataFrameSchema]
    exact ⟨inferInstance, inferInstance, inferInstance, inferInstance, inferInstance,
      inferInstance, inferInstance, inferInstance, inferInstance, inferInstance,
      List.forall_mem_nil _⟩

instance : UnorderedEntity Recorder where
  schemas := by
    show ∀ entry ∈ Recorder.registry.entries, entry.2.Unordered
    apply Registry.forall_ofList Schema.Unordered (by decide +kernel)
    simp only [List.forall_mem_cons, Recorder.nodeSchema, Recorder.parameterSchema]
    exact ⟨inferInstance, inferInstance, inferInstance, List.forall_mem_nil _⟩

instance : UnorderedEntity Table where
  schemas := by
    show ∀ entry ∈ Table.registry.entries, entry.2.Unordered
    apply Registry.forall_ofList Schema.Unordered (by decide +kernel)
    simp only [List.forall_mem_cons, Table.csvSchema, Table.hdfSchema]
    exact ⟨inferInstance, inferInstance, List.forall_mem_nil _⟩

instance : UnorderedEntity Output where
  schemas := by
    show ∀ entry ∈ Output.registry.entries, entry.2.Unordered
    apply Registry.forall_ofList Schema.Unordered (by decide +kernel)
    simp only [List.forall_mem_cons, Output.schema]
    exact ⟨inferInstance, inferInstance, List.forall_mem_nil _⟩

instance : Timestepper.schema.Unordered := by
  unfold Timestepper.schema
  infer_instance

instance : Edge.schema.Unordered := by
  unfold Edge.schema
  infer_instance

section

variable {strictness : Strictness} {first second : Document}

theorem Timestepper.Loads.of_reordered {timestepper : Timestepper} (hproper : first.Proper)
    (hreordered : first.Reordered second) (h : Loads strictness first timestepper) :
    Loads strictness second timestepper := by
  cases h with
  | mapping reads valid =>
    obtain ⟨others, rfl⟩ := hreordered.exists_fields
    exact .mapping (reads.of_reordered hproper hreordered) valid

theorem Edge.Loads.of_reordered {edge : Edge} (hproper : first.Proper)
    (hreordered : first.Reordered second) (h : Loads strictness first edge) :
    Loads strictness second edge := by
  cases h with
  | mapping reads =>
    obtain ⟨others, rfl⟩ := hreordered.exists_fields
    exact .mapping (reads.of_reordered hproper hreordered)

namespace Entity

variable {α : Type} [Entity α]

/-- The type is found in any order. -/
theorem schemaOf?_of_reordered {fields others : Fields} {schema : Schema α}
    (hreordered : (Document.mapping fields).Reordered (.mapping others))
    (h : schemaOf? fields = some schema) : schemaOf? others = some schema := by
  unfold schemaOf? at h ⊢
  split at h
  · rename_i type htype
    rw [hreordered.value?_eq_text htype]
    exact h
  · cases h

/-- An entry is loaded in any order of its keys: its type is found there, and its schema makes
nothing of the order. -/
theorem Loads.of_reordered [LawfulEntity α] [UnorderedEntity α] {a : α} (hproper : first.Proper)
    (hreordered : first.Reordered second) (h : Loads strictness first a) :
    Loads strictness second a := by
  cases h with
  | @mapping fields schema _ typed reads valid =>
  obtain ⟨others, rfl⟩ := hreordered.exists_fields
  have hlawful : schema.Lawful := (lawful_of_schemaOf? typed).lawful
  have hunordered : schema.Unordered := forall_of_schemaOf? UnorderedEntity.schemas typed
  -- without the type, the fields stand in different orders even if they did not before
  have hrest := hreordered.takeOut "type" hproper.distinct_keys
    (hreordered.proper hproper).distinct_keys
  have hrest_proper : (Document.mapping (Fields.takeOut "type" fields)).Proper :=
    .mapping (Fields.nodup_keys_takeOut hproper.distinct_keys) fun entry hentry =>
      hproper.values entry ((Fields.mem_takeOut_iff hproper.distinct_keys).mp hentry).1
  exact .mapping (schemaOf?_of_reordered hreordered typed)
    (reads.of_reordered hrest_proper hrest) valid

end Entity

end

namespace Model

variable {strictness : Strictness} {fields others : Fields} {required : Bool}

/-- The items of a section stand in their order, each of them perhaps with its keys in another one.
-/
theorem exists_sectionItems_of_reordered {sect : Section} {items : List Document}
    (hreordered : (Document.mapping fields).Reordered (.mapping others))
    (h : sectionItems fields sect required = .ok items) :
    ∃ found, sectionItems others sect required = .ok found ∧
      List.Forall₂ Document.Reordered items found := by
  simp only [sectionItems_eq_ok_iff] at h ⊢
  -- a section is a sequence, or it is optional and missing or null
  rcases h with hitems | ⟨hoptional, rfl, hnone | hnull⟩
  · obtain ⟨other, hother, hsequence⟩ := hreordered.exists_value hitems
    obtain ⟨found, rfl, hall⟩ := hsequence.exists_items
    exact ⟨found, .inl hother, hall⟩
  · exact ⟨[], .inr ⟨hoptional, rfl, .inl (hreordered.value?_eq_none hnone)⟩, .nil⟩
  · obtain ⟨other, hother, hsame⟩ := hreordered.exists_value hnull
    cases hsame
    exact ⟨[], .inr ⟨hoptional, rfl, .inr hother⟩, .nil⟩

theorem SectionLoads.of_reordered {α : Type} [Entity α] [LawfulEntity α] [UnorderedEntity α]
    {collection : Collection α} (hproper : (Document.mapping fields).Proper)
    (hreordered : (Document.mapping fields).Reordered (.mapping others))
    (h : SectionLoads strictness fields required collection) :
    SectionLoads strictness others required collection := by
  obtain ⟨items, hitems, hloads⟩ := h
  obtain ⟨found, hfound, hall⟩ := exists_sectionItems_of_reordered hreordered hitems
  exact ⟨found, hfound, forall₂_of_reordered Entity.Loads.of_reordered
    (proper_sectionItems hproper.values hitems) hall hloads⟩

/-- A model is loaded in any order of the keys of its document, section by section. -/
theorem Loads.of_reordered {model : Model} (hproper : (Document.mapping fields).Proper)
    (hreordered : (Document.mapping fields).Reordered (.mapping others))
    (h : Loads strictness fields model) : Loads strictness others model where
  -- strict loading asks which keys are there, not where
  known := by
    intro hstrict
    have hknown := List.filter_eq_nil_iff.mp (h.known hstrict)
    exact List.filter_eq_nil_iff.mpr fun key hkey => hknown key (hreordered.mem_keys_iff.mpr hkey)
  timestepper := by
    obtain ⟨document, hdocument, hloads⟩ := h.timestepper
    obtain ⟨other, hother, hsame⟩ := hreordered.exists_value hdocument
    have hdocument_proper := hproper.values _ (mem_of_lookup_eq_some hdocument)
    exact ⟨other, hother, hloads.of_reordered hdocument_proper hsame⟩
  nodes := h.nodes.of_reordered hproper hreordered
  edges := by
    obtain ⟨items, hitems, hloads⟩ := h.edges
    obtain ⟨found, hfound, hall⟩ := exists_sectionItems_of_reordered hreordered hitems
    exact ⟨found, hfound, forall₂_of_reordered Edge.Loads.of_reordered
      (proper_sectionItems hproper.values hitems) hall hloads⟩
  parameters := h.parameters.of_reordered hproper hreordered
  recorders := h.recorders.of_reordered hproper hreordered
  tables := h.tables.of_reordered hproper hreordered
  outputs := h.outputs.of_reordered hproper hreordered
  path := h.path

/-- A model that is loaded out of a document is loaded out of it in any order of its keys. -/
theorem load?_of_reordered {first second : Document} {model : Model} (hproper : first.Proper)
    (hreordered : first.Reordered second) (h : load? strictness first = .ok model) :
    load? strictness second = .ok model := by
  obtain ⟨fields, rfl, hloads⟩ := load?_eq_ok_iff.mp h
  obtain ⟨others, rfl⟩ := hreordered.exists_fields
  exact load?_eq_ok_iff.mpr ⟨others, rfl, hloads.of_reordered hproper hreordered⟩

/-- The order of keys, at any depth of a document, does not matter: the same model is loaded, or
none is. -/
theorem toOption_load?_eq_of_reordered {first second : Document} (hproper : first.Proper)
    (hreordered : first.Reordered second) (strictness : Strictness) :
    (load? strictness first).toOption = (load? strictness second).toOption := by
  ext model
  rw [toOption_eq_some_iff, toOption_eq_some_iff]
  -- the relation is symmetric, so either document loads what the other one does
  exact ⟨load?_of_reordered hproper hreordered,
    load?_of_reordered (hreordered.proper hproper) hreordered.symm⟩

def spillway : Document :=
  .mapping [
    ("timestepper", .mapping [("start", .text "2022-05-01"), ("end", .text "2022-05-31"),
      ("timestep", .number (.integer 1))]),
    ("nodes", .sequence [
      .mapping [("type", .text "PiecewiseLink"), ("name", .text "crest"),
        ("steps", .sequence [
          .mapping [("cost", .number (.integer 0)), ("max_flow", .number (.integer 5))],
          .mapping [("cost", .number (.integer 9))]])]]),
    ("parameters", .sequence [
      .mapping [("type", .text "Aggregated"), ("name", .text "spill"),
        ("agg_func", .mapping [("sum", .null)]), ("parameters", .sequence [.text "rain"])]])]

/-- The same spillway, written down in another order. -/
def reorderedSpillway : Document :=
  .mapping [
    ("parameters", .sequence [
      .mapping [("parameters", .sequence [.text "rain"]), ("type", .text "Aggregated"),
        ("agg_func", .mapping [("sum", .null)]), ("name", .text "spill")]]),
    ("nodes", .sequence [
      .mapping [("name", .text "crest"),
        ("steps", .sequence [
          .mapping [("max_flow", .number (.integer 5)), ("cost", .number (.integer 0))],
          .mapping [("cost", .number (.integer 9))]]),
        ("type", .text "PiecewiseLink")]]),
    ("timestepper", .mapping [("timestep", .number (.integer 1)), ("end", .text "2022-05-31"),
      ("start", .text "2022-05-01")])]

theorem proper_spillway : spillway.Proper := by
  have hnumbers : ∀ n ∈ [0, 1, 5, 9], (Numeral.integer n).toFloat.isFinite = true := by
    decide +kernel
  simp only [List.forall_mem_cons] at hnumbers
  simp [spillway, Fields.keys, hnumbers, Document.Proper.null]

theorem spillway_reordered : spillway.Reordered reorderedSpillway := by
  have hschedule : (Document.mapping [("start", .text "2022-05-01"), ("end", .text "2022-05-31"),
      ("timestep", .number (.integer 1))]).Reordered (.mapping [
        ("timestep", .number (.integer 1)), ("end", .text "2022-05-31"),
        ("start", .text "2022-05-01")]) := by
    refine .mapping_of_forall (by decide) ?_
    simp only [List.forall_mem_cons]
    exact ⟨⟨_, rfl, .text⟩, ⟨_, rfl, .text⟩, ⟨_, rfl, .number⟩, List.forall_mem_nil _⟩
  have hlower : (Document.mapping [("cost", .number (.integer 0)),
      ("max_flow", .number (.integer 5))]).Reordered (.mapping [
        ("max_flow", .number (.integer 5)), ("cost", .number (.integer 0))]) := by
    refine .mapping_of_forall (by decide) ?_
    simp only [List.forall_mem_cons]
    exact ⟨⟨_, rfl, .number⟩, ⟨_, rfl, .number⟩, List.forall_mem_nil _⟩
  have hupper : (Document.mapping [("cost", .number (.integer 9))]).Reordered
      (.mapping [("cost", .number (.integer 9))]) := by
    refine .mapping_of_forall (.refl _) ?_
    simp only [List.forall_mem_cons]
    exact ⟨⟨_, rfl, .number⟩, List.forall_mem_nil _⟩
  have hcrest := Document.Reordered.of_forall₂ (.cons hlower (.cons hupper .nil))
  have hsum : (Document.mapping [("sum", .null)]).Reordered (.mapping [("sum", .null)]) := by
    refine .mapping_of_forall (.refl _) ?_
    simp only [List.forall_mem_cons]
    exact ⟨⟨_, rfl, .null⟩, List.forall_mem_nil _⟩
  have hrain : (Document.sequence [.text "rain"]).Reordered (.sequence [.text "rain"]) :=
    .of_forall₂ (.cons .text .nil)
  refine .mapping_of_forall (by decide) ?_
  simp only [List.forall_mem_cons]
  refine ⟨⟨_, rfl, hschedule⟩,
    ⟨_, rfl, .of_forall₂ (.cons (.mapping_of_forall (by decide) ?_) .nil)⟩,
    ⟨_, rfl, .of_forall₂ (.cons (.mapping_of_forall (by decide) ?_) .nil)⟩, List.forall_mem_nil _⟩
  · simp only [List.forall_mem_cons]
    exact ⟨⟨_, rfl, .text⟩, ⟨_, rfl, .text⟩, ⟨_, rfl, hcrest⟩, List.forall_mem_nil _⟩
  · simp only [List.forall_mem_cons]
    exact ⟨⟨_, rfl, .text⟩, ⟨_, rfl, .text⟩, ⟨_, rfl, hsum⟩, ⟨_, rfl, hrain⟩,
      List.forall_mem_nil _⟩

theorem toOption_load?_eq_of_reordered_spillway :
    spillway.Proper ∧ spillway.Reordered reorderedSpillway ∧
      (load? .strict spillway).isOk = true ∧
      (load? .strict spillway).toOption = (load? .strict reorderedSpillway).toOption :=
  ⟨proper_spillway, spillway_reordered, by decide +kernel,
    toOption_load?_eq_of_reordered proper_spillway spillway_reordered .strict⟩

end Model

end FlowPlan
