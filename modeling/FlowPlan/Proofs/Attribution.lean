import FlowPlan.Proofs.Loads

namespace FlowPlan

namespace ModelError

/-- Whether an error is one of loading a section, and belongs to it. -/
inductive Attributed (sect : Section) : ModelError → Prop
  | unknownType (name : String) (known : List String) :
    Attributed sect (.unknownType sect name known)
  | missingType (index : ℕ) : Attributed sect (.missingType sect index)
  | invalid (entity : Option String) (details : Invalidity) :
    Attributed sect (.invalid sect entity details)
  | duplicateName (name : String) : Attributed sect (.duplicateName sect name)

theorem Attributed.section?_eq {sect : Section} {e : ModelError} (h : e.Attributed sect) :
    e.section? = some sect := by
  cases h with
  | _ => rfl

end ModelError

open ModelError

section

variable {α β : Type} {sect : Section}

/-- Whether all errors of a result belong to a section. -/
def BelongsTo (sect : Section) (x : Except ModelError α) : Prop :=
  ∀ e, x = .error e → e.Attributed sect

namespace BelongsTo

theorem ok (a : α) : BelongsTo sect (.ok a) := by
  intro e h
  cases h

theorem error {e : ModelError} (h : e.Attributed sect) :
    BelongsTo sect (.error e : Except ModelError α) := by
  intro e' he
  cases he
  exact h

/-- Steps of loading whose errors belong to a section make up a step of the same kind. -/
theorem bind {x : Except ModelError α} {f : α → Except ModelError β} (hx : BelongsTo sect x)
    (hf : ∀ a, BelongsTo sect (f a)) : BelongsTo sect (x >>= f) := by
  intro e h
  rcases bind_eq_error_iff.mp h with h | ⟨a, -, h⟩
  · exact hx e h
  · exact hf a e h

/-- The same for loading, where logging is left aside. -/
theorem result_bind {x : Load α} {f : α → Load β} (hx : BelongsTo sect x.result)
    (hf : ∀ a, BelongsTo sect (f a).result) : BelongsTo sect (x >>= f).result := by
  rw [Load.result_bind]
  exact hx.bind hf

theorem checkUnknown (strictness : Strictness) (entity : Option String) (unknown : List String) :
    BelongsTo sect (strictness.checkUnknown sect entity unknown).result := by
  unfold Strictness.checkUnknown
  cases unknown with
  | nil => exact ok ()
  | cons key rest =>
    cases strictness with
    | strict => exact error (.invalid entity _)
    | permissive => exact ok ()

end BelongsTo

end

theorem Timestepper.belongsTo_load (strictness : Strictness) (document : Document) :
    BelongsTo .timestepper (load strictness document).result := by
  unfold load
  cases document with
  | mapping fields =>
    dsimp only
    cases schema.read fields with
    | error mismatch => exact .error (.invalid none _)
    | ok timestepper =>
      have hvalidate : BelongsTo .timestepper timestepper.validate := by
        unfold validate
        cases timestepper.invalidity? with
        | none => exact .ok ()
        | some details => exact .error (.invalid none details)
      exact .result_bind (.checkUnknown _ _ _) fun _ => .result_bind hvalidate fun _ => .ok _
  | _ => exact .error (.invalid none _)

namespace Edge

theorem belongsTo_load (strictness : Strictness) (index : ℕ) (document : Document) :
    BelongsTo .edges (load strictness index document).result := by
  unfold load
  cases document with
  | mapping fields =>
    dsimp only
    cases schema.read fields with
    | error mismatch => exact .error (.invalid none _)
    | ok edge => exact .result_bind (.checkUnknown _ _ _) fun _ => .ok _
  | _ => exact .error (.invalid none _)

theorem belongsTo_loadFrom (strictness : Strictness) (index : ℕ) (documents : List Document) :
    BelongsTo .edges (loadFrom strictness index documents).result := by
  induction documents generalizing index with
  | nil => exact .ok _
  | cons document rest ih =>
    exact .result_bind (belongsTo_load strictness index document) fun _ =>
      .result_bind (ih (index + 1)) fun _ => .ok _

end Edge

class RegisteredEntity (α : Type) [Entity α] : Prop where
  sect_eq : (Entity.registry : Registry (Schema α)).sect = Entity.sect α

instance : RegisteredEntity Node where
  sect_eq := Registry.sect_ofList _ _

instance : RegisteredEntity Parameter where
  sect_eq := Registry.sect_ofList _ _

instance : RegisteredEntity Recorder where
  sect_eq := Registry.sect_ofList _ _

instance : RegisteredEntity Table where
  sect_eq := Registry.sect_ofList _ _

instance : RegisteredEntity Output where
  sect_eq := Registry.sect_ofList _ _

namespace Entity

variable {α : Type} [Entity α]

theorem belongsTo_typeOf (sect : Section) (index : ℕ) (fields : Fields) :
    BelongsTo sect (typeOf sect index fields) := by
  unfold typeOf
  cases fields.value? "type" with
  | none => exact .error (.missingType index)
  | some found =>
    cases found with
    | text type => exact .ok type
    | _ => exact .error (.invalid _ _)

theorem belongsTo_resolve [RegisteredEntity α] (type : String) :
    BelongsTo (sect α) ((registry : Registry (Schema α)).resolve type) := by
  unfold Registry.resolve
  cases (registry : Registry (Schema α)).find? type with
  | some schema => exact .ok schema
  | none =>
    dsimp only
    rw [RegisteredEntity.sect_eq]
    exact .error (.unknownType type _)

theorem belongsTo_validate (a : α) : BelongsTo (sect α) (validate a) := by
  unfold validate
  cases invalidity? a with
  | none => exact .ok ()
  | some details => exact .error (.invalid _ details)

/-- All errors of an entry belong to the section of the entry, be they about its type, a field, an
unknown key or the check of the whole. -/
theorem belongsTo_load [RegisteredEntity α] (strictness : Strictness) (index : ℕ)
    (document : Document) :
    BelongsTo (sect α) (load strictness index document : Load α).result := by
  unfold load
  cases document with
  | mapping fields =>
    refine .result_bind (belongsTo_typeOf _ index fields) fun type =>
      .result_bind (belongsTo_resolve type) fun schema => ?_
    dsimp only
    cases schema.read (Fields.takeOut "type" fields) with
    | error mismatch => exact .error (.invalid _ _)
    | ok a =>
      exact .result_bind (.checkUnknown _ _ _) fun _ => .result_bind (belongsTo_validate a)
        fun _ => .ok a
  | _ => exact .error (.invalid none _)

end Entity

namespace Collection

variable {α : Type} [Entity α]

theorem belongsTo_insert (collection : Collection α) (a : α) :
    BelongsTo (Entity.sect α) (collection.insert a) := by
  unfold insert
  split
  · exact .error (.duplicateName _)
  · exact .ok _

/-- The errors of a section are those of its entries, or that a name is taken there. -/
theorem belongsTo_loadFrom [RegisteredEntity α] (strictness : Strictness)
    (collection : Collection α) (index : ℕ) (documents : List Document) :
    BelongsTo (Entity.sect α) (loadFrom strictness collection index documents).result := by
  induction documents generalizing collection index with
  | nil => exact .ok collection
  | cons document rest ih =>
    exact .result_bind (Entity.belongsTo_load strictness index document) fun a =>
      .result_bind (belongsTo_insert collection a) fun next => ih next (index + 1)

end Collection

namespace Model

theorem belongsTo_sectionItems (fields : Fields) (sect : Section) (required : Bool) :
    BelongsTo sect (sectionItems fields sect required) := by
  unfold sectionItems
  cases fields.value? sect.key with
  | none =>
    cases required with
    | true => exact .error (.invalid none _)
    | false => exact .ok []
  | some found =>
    cases found with
    | sequence items => exact .ok items
    | null =>
      cases required with
      | true => exact .error (.invalid none _)
      | false => exact .ok []
    | _ => exact .error (.invalid none _)

theorem belongsTo_loadTimestepper (strictness : Strictness) (fields : Fields) :
    BelongsTo .timestepper (loadTimestepper strictness fields).result := by
  unfold loadTimestepper
  cases fields.value? Section.timestepper.key with
  | none => exact .error (.invalid none _)
  | some document => exact Timestepper.belongsTo_load strictness document

theorem belongsTo_loadSection {α : Type} [Entity α] [RegisteredEntity α] (strictness : Strictness)
    (fields : Fields) (required : Bool) :
    BelongsTo (Entity.sect α) (loadSection α strictness fields required).result :=
  .result_bind (belongsTo_sectionItems fields _ required) fun items =>
    Collection.belongsTo_loadFrom strictness .empty 0 items

theorem belongsTo_loadEdges (strictness : Strictness) (fields : Fields) :
    BelongsTo .edges (loadEdges strictness fields).result :=
  .result_bind (belongsTo_sectionItems fields _ false) fun items =>
    Edge.belongsTo_loadFrom strictness 0 items

end Model

end FlowPlan
