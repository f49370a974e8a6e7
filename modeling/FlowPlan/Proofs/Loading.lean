import FlowPlan.Proofs.Loads

namespace FlowPlan

namespace Entity

variable {α : Type} [Entity α]

theorem validate_eq_ok_iff {a : α} : validate a = .ok () ↔ invalidity? a = none := by
  unfold validate
  cases invalidity? a with
  | none => simp
  | some details => simp

theorem Loads.valid {strictness : Strictness} {document : Document} {a : α}
    (h : Loads strictness document a) : invalidity? a = none := by
  cases h with
  | mapping _ _ hvalid => exact validate_eq_ok_iff.mp hvalid

end Entity

namespace Model

/-- Whether the nodes and parameters of a model are valid, each by itself. -/
structure Valid (model : Model) : Prop where
  nodes : ∀ node ∈ model.nodes.entities, node.invalidity? = none
  parameters : ∀ p ∈ model.parameters.entities, p.invalidity? = none

/-- What a section comes to has passed the check of each of its entries. -/
theorem SectionLoads.valid {α : Type} [Entity α] {strictness : Strictness} {fields : Fields}
    {required : Bool} {collection : Collection α}
    (h : SectionLoads strictness fields required collection) :
    ∀ a ∈ collection.entities, Entity.invalidity? a = none := by
  obtain ⟨items, -, hitems⟩ := h
  exact forall_mem_of_forall₂ hitems fun _ _ _ hloads => hloads.valid

/-- A model that is loaded has passed all checks. -/
theorem valid_of_load? {strictness : Strictness} {document : Document} {model : Model}
    (h : load? strictness document = .ok model) : model.Valid := by
  obtain ⟨fields, -, hloads⟩ := load?_eq_ok_iff.mp h
  exact ⟨hloads.nodes.valid, hloads.parameters.valid⟩

namespace Valid

variable {model : Model}

/-- A piecewise link that has passed its check has a step. -/
theorem stepNames_ne_nil (h : model.Valid) {link : PiecewiseLink}
    (hlink : .piecewiseLink link ∈ model.nodes.entities) : link.stepNames ≠ [] := by
  have hvalid := h.nodes _ hlink
  intro hnone
  have hsteps : link.steps = [] := by
    unfold PiecewiseLink.stepNames at hnone
    rwa [List.map_eq_nil_iff, List.range_eq_nil, List.length_eq_zero_iff] at hnone
  exact (refusal_eq_none_iff.mp hvalid).1 (List.isEmpty_iff.mpr hsteps)

/-- A valid group has as many factors as members, if it has factors. -/
theorem length_factors (h : model.Valid) {group : AggregatedNode}
    (hgroup : .aggregated group ∈ model.nodes.entities) :
    ∀ factors, group.factors = some factors → factors.length = group.members.length := by
  have hvalid : group.invalidity? = none := h.nodes _ hgroup
  intro factors hfactors
  obtain ⟨-, hrest⟩ := refusal_eq_none_iff.mp hvalid
  rw [hfactors] at hrest
  exact not_not.mp (refusal_eq_none_iff.mp hrest).1

end Valid

end Model

end FlowPlan
