import FlowPlan.Node.Entity
import FlowPlan.Proofs.Reader

namespace FlowPlan

open Schema Quantity

namespace FlowNode

def numbers (node : FlowNode) : List Float :=
  numbersOf [node.cost, node.minFlow, node.maxFlow]

instance : schema.Lawful := by
  unfold schema
  infer_instance

theorem build_fields (node : FlowNode) : schema.build node.fields = .ok node := by
  cases node
  apply build_seq _ (build_optionalQuantity rfl)
  apply build_seq _ (build_optionalQuantity rfl)
  apply build_seq _ (build_optionalQuantity rfl)
  exact build_head rfl rfl

theorem proper_fields {node : FlowNode} (h : AllFinite node.numbers) :
    ∀ entry ∈ node.fields, entry.2.Proper := by
  simp only [numbers, allFinite_numbersOf_cons] at h
  obtain ⟨hcost, hmin, hmax, -⟩ := h
  simp only [fields, List.forall_mem_cons]
  exact ⟨.text, .optional fun _ _ => .text, proper_optional hcost, proper_optional hmin,
    proper_optional hmax, List.forall_mem_nil _⟩

/-- Out of a document that JSON can hold, only finite numbers are read. -/
theorem finite_of_build {fields : Fields} (hproper : ∀ entry ∈ fields, entry.2.Proper)
    {node : FlowNode} (h : schema.build fields = .ok node) : AllFinite node.numbers := by
  simp only [schema, build_seq_eq_ok_iff, build_map_eq_ok_iff] at h
  obtain ⟨_, maxFlow, ⟨_, minFlow, ⟨_, cost, ⟨_, comment, ⟨name, -, rfl⟩, -, rfl⟩, hcost, rfl⟩,
    hmin, rfl⟩, hmax, rfl⟩ := h
  simp only [numbers, allFinite_numbersOf_cons]
  exact ⟨of_build_optionalQuantity hproper hcost, of_build_optionalQuantity hproper hmin,
    of_build_optionalQuantity hproper hmax, allFinite_numbersOf_nil⟩

end FlowNode

namespace StorageNode

def numbers (node : StorageNode) : List Float :=
  node.initialVolume :: numbersOf [node.cost, node.minVolume, node.maxVolume]

instance : schema.Lawful := by
  unfold schema
  infer_instance

theorem build_fields (node : StorageNode) : schema.build node.fields = .ok node := by
  cases node
  apply build_seq _ (build_optionalQuantity rfl)
  apply build_seq _ (build_optionalQuantity rfl)
  apply build_seq _ (build_defaulted Reader.inverts_number rfl)
  apply build_seq _ (build_optionalQuantity rfl)
  exact build_head rfl rfl

theorem proper_fields {node : StorageNode} (h : AllFinite node.numbers) :
    ∀ entry ∈ node.fields, entry.2.Proper := by
  simp only [numbers, allFinite_cons, allFinite_numbersOf_cons] at h
  obtain ⟨hinitial, hcost, hmin, hmax, -⟩ := h
  simp only [fields, List.forall_mem_cons]
  exact ⟨.text, .optional fun _ _ => .text, proper_optional hcost, .real hinitial,
    proper_optional hmin, proper_optional hmax, List.forall_mem_nil _⟩

theorem finite_of_build {fields : Fields} (hproper : ∀ entry ∈ fields, entry.2.Proper)
    {node : StorageNode} (h : schema.build fields = .ok node) : AllFinite node.numbers := by
  simp only [schema, build_seq_eq_ok_iff, build_map_eq_ok_iff] at h
  obtain ⟨_, maxVolume, ⟨_, minVolume, ⟨_, initialVolume, ⟨_, cost, ⟨_, comment,
    ⟨name, -, rfl⟩, -, rfl⟩, hcost, rfl⟩, hinitial, rfl⟩, hmin, rfl⟩, hmax, rfl⟩ := h
  have hzero : (0 : Float).isFinite = true := by decide
  have hvolume := of_build_defaulted Reader.yields_number hzero hproper hinitial
  simp only [numbers, allFinite_cons, allFinite_numbersOf_cons]
  exact ⟨hvolume, of_build_optionalQuantity hproper hcost,
    of_build_optionalQuantity hproper hmin, of_build_optionalQuantity hproper hmax,
    allFinite_numbersOf_nil⟩

end StorageNode

namespace CatchmentNode

def numbers (node : CatchmentNode) : List Float :=
  numbersOf [node.cost, node.flow]

instance : schema.Lawful := by
  unfold schema
  infer_instance

theorem build_fields (node : CatchmentNode) : schema.build node.fields = .ok node := by
  cases node
  apply build_seq _ (build_optionalQuantity rfl)
  apply build_seq _ (build_optionalQuantity rfl)
  exact build_head rfl rfl

theorem proper_fields {node : CatchmentNode} (h : AllFinite node.numbers) :
    ∀ entry ∈ node.fields, entry.2.Proper := by
  simp only [numbers, allFinite_numbersOf_cons] at h
  obtain ⟨hcost, hflow, -⟩ := h
  simp only [fields, List.forall_mem_cons]
  exact ⟨.text, .optional fun _ _ => .text, proper_optional hcost, proper_optional hflow,
    List.forall_mem_nil _⟩

theorem finite_of_build {fields : Fields} (hproper : ∀ entry ∈ fields, entry.2.Proper)
    {node : CatchmentNode} (h : schema.build fields = .ok node) : AllFinite node.numbers := by
  simp only [schema, build_seq_eq_ok_iff, build_map_eq_ok_iff] at h
  obtain ⟨_, flow, ⟨_, cost, ⟨_, comment, ⟨name, -, rfl⟩, -, rfl⟩, hcost, rfl⟩, hflow, rfl⟩ := h
  simp only [numbers, allFinite_numbersOf_cons]
  exact ⟨of_build_optionalQuantity hproper hcost, of_build_optionalQuantity hproper hflow,
    allFinite_numbersOf_nil⟩

end CatchmentNode

namespace AggregatedNode

def numbers (node : AggregatedNode) : List Float :=
  node.factors.toList.flatten ++ numbersOf [node.minFlow, node.maxFlow]

instance : schema.Lawful := by
  unfold schema
  infer_instance

/-- A group is read back from what is written of it, with its factors if it has some. -/
theorem build_fields (node : AggregatedNode) : schema.build node.fields = .ok node := by
  have hfactors : Reader.Inverts (Reader.listOf Reader.number)
      fun factors => .sequence (factors.map .real) := Reader.inverts_number.listOf
  cases node
  apply build_seq _ (build_optionalQuantity rfl)
  apply build_seq _ (build_optionalQuantity rfl)
  apply build_seq _ (build_optional hfactors (fun _ hnull => by cases hnull) rfl)
  apply build_seq _ (build_required Reader.inverts_text.listOf rfl)
  exact build_head rfl rfl

theorem proper_fields {node : AggregatedNode} (h : AllFinite node.numbers) :
    ∀ entry ∈ node.fields, entry.2.Proper := by
  simp only [numbers, allFinite_append, allFinite_numbersOf_cons] at h
  obtain ⟨hfactors, hmin, hmax, -⟩ := h
  have hreals : ∀ factors ∈ node.factors, ∀ x ∈ factors, (Document.real x).Proper :=
    fun factors hmem x hx => .real (hfactors x (by simp [Option.mem_def.mp hmem, hx]))
  simp only [fields, List.forall_mem_cons]
  exact ⟨.text, .optional fun _ _ => .text, .sequence_map fun _ _ => .text,
    .optional fun factors hmem => .sequence_map (hreals factors hmem), proper_optional hmin,
    proper_optional hmax, List.forall_mem_nil _⟩

theorem finite_of_build {fields : Fields} (hproper : ∀ entry ∈ fields, entry.2.Proper)
    {node : AggregatedNode} (h : schema.build fields = .ok node) : AllFinite node.numbers := by
  simp only [schema, build_seq_eq_ok_iff, build_map_eq_ok_iff] at h
  obtain ⟨_, maxFlow, ⟨_, minFlow, ⟨_, factors, ⟨_, members, ⟨_, comment, ⟨name, -, rfl⟩, -, rfl⟩,
    -, rfl⟩, hread, rfl⟩, hmin, rfl⟩, hmax, rfl⟩ := h
  have hfactors := of_build_optional Reader.yields_number.listOf hproper hread
  simp only [numbers, allFinite_append, allFinite_numbersOf_cons]
  refine ⟨fun x hx => ?_, of_build_optionalQuantity hproper hmin,
    of_build_optionalQuantity hproper hmax, allFinite_numbersOf_nil⟩
  obtain ⟨values, hvalues, hx⟩ := List.mem_flatten.mp hx
  exact hfactors values (Option.mem_toList.mp hvalues) x hx

end AggregatedNode

namespace PiecewiseStep

def numbers (step : PiecewiseStep) : List Float :=
  numbersOf [step.cost, step.maxFlow]

instance : schema.Lawful := by
  unfold schema
  infer_instance

theorem nodup_keys : ["cost", "max_flow"].Nodup := by
  decide

/-- A step is written as a mapping of its two fields. -/
theorem inverts_read : Reader.Inverts read toDocument := by
  intro step
  cases step
  refine (read_eq_ok_iff ?_).mpr ?_
  · exact nodup_keys
  · apply build_seq _ (build_optionalQuantity rfl)
    exact build_map (build_optionalQuantity rfl)

theorem proper_toDocument {step : PiecewiseStep} (h : AllFinite step.numbers) :
    step.toDocument.Proper := by
  simp only [numbers, allFinite_numbersOf_cons] at h
  obtain ⟨hcost, hmax, -⟩ := h
  refine .mapping nodup_keys ?_
  simp only [List.forall_mem_cons]
  exact ⟨proper_optional hcost, proper_optional hmax, List.forall_mem_nil _⟩

/-- Both forms of a step are read with finite numbers only. -/
theorem yields_read : Reader.Yields read fun step => AllFinite step.numbers := by
  intro document hproper step hread
  have hquantities {cost maxFlow : Option Quantity} (hcost : ∀ q ∈ cost, AllFinite q.numbers)
      (hmax : ∀ q ∈ maxFlow, AllFinite q.numbers) :
      AllFinite (PiecewiseStep.mk cost maxFlow).numbers := by
    simp only [numbers, allFinite_numbersOf_cons]
    exact ⟨hcost, hmax, allFinite_numbersOf_nil⟩
  have hpair {document : Document} (hproper : document.Proper)
      (hread : (do
        let pair ← Reader.pairOf .step (Reader.orNull Quantity.read)
          (Reader.orNull Quantity.read) document
        return PiecewiseStep.mk pair.1 pair.2) = .ok step) : AllFinite step.numbers := by
    obtain ⟨pair, hpair, h⟩ := bind_eq_ok_iff.mp hread
    cases h
    obtain ⟨hcost, hmax⟩ := Quantity.yields_read.orNull.pairOf Quantity.yields_read.orNull
      document hproper _ hpair
    exact hquantities hcost hmax
  -- a step is a mapping, or else a pair
  cases document with
  | mapping fields =>
    have hbuild : schema.build fields = .ok step :=
      (read_eq_ok_iff hproper.distinct_keys).mp hread
    simp only [schema, build_seq_eq_ok_iff, build_map_eq_ok_iff] at hbuild
    obtain ⟨_, maxFlow, ⟨cost, hcost, rfl⟩, hmax, rfl⟩ := hbuild
    exact hquantities (of_build_optionalQuantity hproper.values hcost)
      (of_build_optionalQuantity hproper.values hmax)
  | null => exact hpair hproper hread
  | boolean value => exact hpair hproper hread
  | number value => exact hpair hproper hread
  | text value => exact hpair hproper hread
  | sequence items => exact hpair hproper hread

end PiecewiseStep

namespace PiecewiseLink

def numbers (link : PiecewiseLink) : List Float :=
  link.steps.flatMap PiecewiseStep.numbers

instance : schema.Lawful := by
  unfold schema
  infer_instance

theorem build_fields (link : PiecewiseLink) : schema.build link.fields = .ok link := by
  cases link
  apply build_seq _ (build_required PiecewiseStep.inverts_read.listOf rfl)
  exact build_head rfl rfl

theorem proper_fields {link : PiecewiseLink} (h : AllFinite link.numbers) :
    ∀ entry ∈ link.fields, entry.2.Proper := by
  have hsteps : ∀ step ∈ link.steps, AllFinite step.numbers := allFinite_flatMap.mp h
  simp only [fields, List.forall_mem_cons]
  exact ⟨.text, .optional fun _ _ => .text,
    .sequence_map fun step hstep => PiecewiseStep.proper_toDocument (hsteps step hstep),
    List.forall_mem_nil _⟩

theorem finite_of_build {fields : Fields} (hproper : ∀ entry ∈ fields, entry.2.Proper)
    {link : PiecewiseLink} (h : schema.build fields = .ok link) : AllFinite link.numbers := by
  simp only [schema, build_seq_eq_ok_iff, build_map_eq_ok_iff] at h
  obtain ⟨_, steps, ⟨_, comment, ⟨name, -, rfl⟩, -, rfl⟩, hsteps, rfl⟩ := h
  exact allFinite_flatMap.mpr (of_build_required PiecewiseStep.yields_read.listOf hproper hsteps)

end PiecewiseLink

end FlowPlan
