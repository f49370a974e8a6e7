import FlowPlan.Document.Basic
import FlowPlan.Proofs.Lookup
import FlowPlan.Section

namespace FlowPlan

inductive Place where
  | model
  | timestepper
  /-- An edge, or an entity of any kind. -/
  | entry (sect : Section) (index : ℕ)
  /-- A step of a piecewise link. -/
  | step (node index : ℕ)

namespace Place

def IsStep : Place → Prop
  | step _ _ => True
  | _ => False

end Place

namespace Document

def under? (key : String) : Document → Option Document
  | .mapping fields => Fields.value? key fields
  | _ => none

def item? (index : ℕ) : Document → Option Document
  | .sequence items => items[index]?
  | _ => none

def element? (sect : Section) (index : ℕ) (document : Document) : Option Document :=
  (document.under? sect.key).bind (item? index)

def step? (node index : ℕ) (document : Document) : Option Document :=
  ((document.element? .nodes node).bind (under? "steps")).bind (item? index)

def at? (document : Document) : Place → Option Document
  | .model => some document
  | .timestepper => document.under? Section.timestepper.key
  | .entry sect index => document.element? sect index
  | .step node index => document.step? node index

/-- Whether the keys of a mapping stand at a place of a document as well. -/
def Keeps (document : Document) (place : Place) (fields : Fields) : Prop :=
  ∃ others : Fields, document.at? place = some (.mapping others) ∧
    ∀ key ∈ fields.keys, key ∈ others.keys

theorem finiteFields_eq_map (fields : Fields) :
    finiteFields fields = fields.map fun entry => (entry.1, entry.2.finite) := by
  induction fields with
  | nil => rfl
  | cons entry rest ih =>
    obtain ⟨key, value⟩ := entry
    rw [finiteFields, ih, List.map_cons]

theorem keys_finiteFields (fields : Fields) : Fields.keys (finiteFields fields) = fields.keys := by
  rw [finiteFields_eq_map]
  exact List.map_map

theorem value?_finiteFields (fields : Fields) (key : String) :
    Fields.value? key (finiteFields fields) = (fields.value? key).map finite := by
  rw [finiteFields_eq_map]
  exact lookup_map fun _ => finite

theorem finiteItems_eq_map (items : List Document) : finiteItems items = items.map finite := by
  induction items with
  | nil => rfl
  | cons item rest ih => rw [finiteItems, ih, List.map_cons]

theorem under?_finite (document : Document) (key : String) :
    document.finite.under? key = (document.under? key).map finite := by
  cases document with
  | mapping fields => exact value?_finiteFields fields key
  | number value =>
    cases value with
    | integer n => rfl
    | real x =>
      rw [finite]
      split <;> rfl
  | _ => rfl

theorem item?_finite (document : Document) (index : ℕ) :
    document.finite.item? index = (document.item? index).map finite := by
  cases document with
  | sequence items =>
    show (finiteItems items)[index]? = items[index]?.map finite
    rw [finiteItems_eq_map, List.getElem?_map]
  | number value =>
    cases value with
    | integer n => rfl
    | real x =>
      rw [finite]
      split <;> rfl
  | _ => rfl

theorem element?_finite (document : Document) (sect : Section) (index : ℕ) :
    document.finite.element? sect index = (document.element? sect index).map finite := by
  unfold element?
  rw [under?_finite]
  cases document.under? sect.key with
  | none => rfl
  | some found => exact item?_finite found index

theorem step?_finite (document : Document) (node index : ℕ) :
    document.finite.step? node index = (document.step? node index).map finite := by
  unfold step?
  rw [element?_finite]
  cases document.element? .nodes node with
  | none => rfl
  | some entry =>
    dsimp only [Option.map_some, Option.bind_some]
    rw [under?_finite]
    cases entry.under? "steps" with
    | none => rfl
    | some found => exact item?_finite found index

/-- Writing null for infinite numbers moves nothing: what stands at a place is found there again. -/
theorem at?_finite (document : Document) (place : Place) :
    document.finite.at? place = (document.at? place).map finite := by
  cases place with
  | model => rfl
  | timestepper => exact under?_finite document Section.timestepper.key
  | entry sect index => exact element?_finite document sect index
  | step node index => exact step?_finite document node index

/-- A mapping stays a mapping, and nothing else becomes one. -/
theorem finite_eq_mapping_iff {document : Document} {fields : Fields} :
    document.finite = .mapping fields ↔
      ∃ found, document = .mapping found ∧ finiteFields found = fields := by
  constructor
  · intro h
    cases document with
    | mapping found =>
      cases h
      exact ⟨found, rfl, rfl⟩
    | number value =>
      -- a number becomes a number or null, never a mapping
      cases value with
      | integer n => cases h
      | real x =>
        rw [finite] at h
        split at h
        · cases h
        · cases h
    | _ => cases h
  · rintro ⟨found, rfl, rfl⟩
    rfl

/-- Keys do not depend on numbers. -/
theorem keeps_finite_iff {document : Document} {place : Place} {fields : Fields} :
    document.finite.Keeps place fields ↔ document.Keeps place fields := by
  unfold Keeps
  simp only [at?_finite, Option.map_eq_some_iff, finite_eq_mapping_iff]
  constructor
  · rintro ⟨_, ⟨_, hat, found, rfl, rfl⟩, hkeys⟩
    rw [keys_finiteFields] at hkeys
    exact ⟨found, hat, hkeys⟩
  · rintro ⟨found, hat, hkeys⟩
    refine ⟨_, ⟨_, hat, found, rfl, rfl⟩, ?_⟩
    rw [keys_finiteFields]
    exact hkeys

end Document

end FlowPlan
