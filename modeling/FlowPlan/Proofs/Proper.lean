import FlowPlan.Document.Basic
import Mathlib.Data.List.Basic

namespace FlowPlan

def AllFinite (numbers : List Float) : Prop :=
  ∀ x ∈ numbers, x.isFinite = true

instance (numbers : List Float) : Decidable (AllFinite numbers) := by
  unfold AllFinite
  infer_instance

theorem allFinite_nil : AllFinite [] :=
  List.forall_mem_nil _

theorem allFinite_cons {x : Float} {numbers : List Float} :
    AllFinite (x :: numbers) ↔ x.isFinite = true ∧ AllFinite numbers :=
  List.forall_mem_cons

theorem allFinite_append {first second : List Float} :
    AllFinite (first ++ second) ↔ AllFinite first ∧ AllFinite second :=
  List.forall_mem_append

theorem allFinite_flatMap {α : Type} {items : List α} {numbers : α → List Float} :
    AllFinite (items.flatMap numbers) ↔ ∀ a ∈ items, AllFinite (numbers a) :=
  List.forall_mem_flatMap

namespace Document

theorem finiteItems_eq_self {items : List Document} (h : ∀ item ∈ items, item.finite = item) :
    finiteItems items = items := by
  induction items with
  | nil => rfl
  | cons item rest ih =>
    obtain ⟨hitem, hrest⟩ := List.forall_mem_cons.mp h
    rw [finiteItems, hitem, ih hrest]

theorem finiteFields_eq_self {fields : Fields} (h : ∀ entry ∈ fields, entry.2.finite = entry.2) :
    finiteFields fields = fields := by
  induction fields with
  | nil => rfl
  | cons entry rest ih =>
    obtain ⟨key, value⟩ := entry
    obtain ⟨hvalue, hrest⟩ := List.forall_mem_cons.mp h
    dsimp only at hvalue
    rw [finiteFields, hvalue, ih hrest]

/-- Whether a document is one that JSON can hold. -/
inductive Proper : Document → Prop
  | null : Proper .null
  | boolean {value : Bool} : Proper (.boolean value)
  | number {value : Numeral} (finite : value.toFloat.isFinite = true) : Proper (.number value)
  | text {value : String} : Proper (.text value)
  | sequence {items : List Document} (items_proper : ∀ item ∈ items, Proper item) :
      Proper (.sequence items)
  | mapping {fields : Fields} (distinct : fields.keys.Nodup)
      (values_proper : ∀ entry ∈ fields, Proper entry.2) : Proper (.mapping fields)

namespace Proper

theorem items {items : List Document} (h : (Document.sequence items).Proper) :
    ∀ item ∈ items, item.Proper := by
  cases h with
  | sequence items_proper => exact items_proper

theorem distinct_keys {fields : Fields} (h : (Document.mapping fields).Proper) :
    fields.keys.Nodup := by
  cases h with
  | mapping distinct _ => exact distinct

theorem values {fields : Fields} (h : (Document.mapping fields).Proper) :
    ∀ entry ∈ fields, entry.2.Proper := by
  cases h with
  | mapping _ values_proper => exact values_proper

@[simp]
theorem text_iff {value : String} : (Document.text value).Proper ↔ True :=
  iff_of_true .text trivial

@[simp]
theorem number_iff {value : Numeral} :
    (Document.number value).Proper ↔ value.toFloat.isFinite = true := by
  constructor
  · intro h
    cases h with
    | number hfinite => exact hfinite
  · exact .number

@[simp]
theorem sequence_iff {items : List Document} :
    (Document.sequence items).Proper ↔ ∀ item ∈ items, item.Proper :=
  ⟨Proper.items, .sequence⟩

/-- Inside a mapping without a key twice, all values have to be proper. -/
@[simp]
theorem mapping_iff {fields : Fields} :
    (Document.mapping fields).Proper ↔
      fields.keys.Nodup ∧ ∀ entry ∈ fields, entry.2.Proper :=
  ⟨fun h => ⟨h.distinct_keys, h.values⟩, fun h => .mapping h.1 h.2⟩

/-- Such a document has no number that would become null. -/
theorem finite_eq {document : Document} (h : document.Proper) : document.finite = document := by
  induction h with
  | null => rfl
  | boolean => rfl
  | text => rfl
  | @number value hfinite =>
    cases value with
    | integer n => rfl
    | real x =>
      rw [finite]
      exact if_pos hfinite
  | sequence _ ih => rw [finite, finiteItems_eq_self ih]
  | mapping _ _ ih => rw [finite, finiteFields_eq_self ih]

theorem real {x : Float} (hfinite : x.isFinite = true) : (Document.real x).Proper :=
  .number hfinite

theorem optional {α : Type} {write : α → Document} {value : Option α}
    (h : ∀ a ∈ value, (write a).Proper) : (Document.optional write value).Proper := by
  cases value with
  | none => exact .null
  | some a => exact h a rfl

theorem sequence_map {α : Type} {write : α → Document} {values : List α}
    (h : ∀ a ∈ values, (write a).Proper) : (Document.sequence (values.map write)).Proper :=
  .sequence (List.forall_mem_map.mpr h)

end Proper

end Document

end FlowPlan
