import FlowPlan.Proofs.Proper
import FlowPlan.Proofs.Schema
import FlowPlan.Quantity

namespace FlowPlan

namespace Reader

variable {α β : Type}

def Inverts (read : Reader α) (write : α → Document) : Prop :=
  ∀ a, read (write a) = .ok a

/-- Whether all that is read out of proper documents has some property. -/
def Yields (read : Reader α) (P : α → Prop) : Prop :=
  ∀ document : Document, document.Proper → ∀ a, read document = .ok a → P a

theorem inverts_text : Inverts text .text :=
  fun _ => rfl

theorem inverts_path : Inverts path .text :=
  fun _ => rfl

/-- A number is written as the real that it is, so that reading it gives it back. -/
theorem inverts_number : Inverts number .real :=
  fun _ => rfl

/-- What is read as a number in a proper document is finite. -/
theorem yields_number : Yields number fun x => x.isFinite = true := by
  intro document hproper x hread
  cases hproper with
  | number hfinite =>
    cases hread
    exact hfinite
  | _ => cases hread

theorem orNull_eq_ok_iff {read : Reader α} {document : Document} {value : Option α}
    (h : document ≠ .null) :
    orNull read document = .ok value ↔ ∃ a, read document = .ok a ∧ some a = value := by
  unfold orNull
  split
  · exact absurd rfl h
  · cases read document with
    | error e => simp
    | ok a => simp

/-- What is written as anything but null is also read back where null stands for nothing. -/
theorem Inverts.orNull {read : Reader α} {write : α → Document} (h : Inverts read write)
    (hwrite : ∀ a, write a ≠ .null) : Inverts (Reader.orNull read) (.optional write) := by
  intro value
  cases value with
  | none => rfl
  | some a => exact (orNull_eq_ok_iff (hwrite a)).mpr ⟨a, h a, rfl⟩

theorem Yields.orNull {read : Reader α} {P : α → Prop} (h : Yields read P) :
    Yields (Reader.orNull read) fun value => ∀ a ∈ value, P a := by
  intro document hproper value hread a ha
  by_cases hnull : document = .null
  · cases hnull
    cases hread
    cases ha
  · obtain ⟨b, hb, rfl⟩ := (orNull_eq_ok_iff hnull).mp hread
    cases ha
    exact h document hproper a hb

/-- A list is read back item by item. -/
theorem Inverts.listOf {read : Reader α} {write : α → Document} (h : Inverts read write) :
    Inverts (Reader.listOf read) fun values => .sequence (values.map write) := by
  intro values
  refine mapM_eq_ok_iff.mpr ?_
  rw [List.forall₂_map_left_iff, List.forall₂_same]
  exact fun a _ => h a

theorem Yields.listOf {read : Reader α} {P : α → Prop} (h : Yields read P) :
    Yields (Reader.listOf read) fun values => ∀ a ∈ values, P a := by
  intro document hproper values hread
  cases hproper with
  | sequence items_proper =>
    have hitems := mapM_eq_ok_iff.mp hread
    exact forall_mem_of_forall₂ hitems fun item hitem a ha => h item (items_proper item hitem) a ha
  | _ => cases hread

/-- A pair is a sequence of exactly two items. -/
theorem pairOf_eq_ok_iff {wanted : Wanted} {first : Reader α} {second : Reader β}
    {items : List Document} {pair : α × β} :
    pairOf wanted first second (.sequence items) = .ok pair ↔
      ∃ a b, items = [a, b] ∧ first a = .ok pair.1 ∧ second b = .ok pair.2 := by
  constructor
  · intro h
    -- the items are read in their order, and a third one is refused at the end
    match items, h with
    | [a], h =>
      obtain ⟨_, -, h⟩ := bind_eq_ok_iff.mp h
      cases h
    | a :: b :: rest, h =>
      obtain ⟨x, hx, h⟩ := bind_eq_ok_iff.mp h
      obtain ⟨y, hy, h⟩ := bind_eq_ok_iff.mp h
      cases rest with
      | nil =>
        cases h
        exact ⟨a, b, rfl, hx, hy⟩
      | cons => cases h
  · rintro ⟨a, b, rfl, ha, hb⟩
    exact bind_eq_ok_iff.mpr ⟨_, ha, bind_eq_ok_iff.mpr ⟨_, hb, rfl⟩⟩

theorem Yields.pairOf {wanted : Wanted} {first : Reader α} {second : Reader β} {P : α → Prop}
    {Q : β → Prop} (hfirst : Yields first P) (hsecond : Yields second Q) :
    Yields (Reader.pairOf wanted first second) fun pair => P pair.1 ∧ Q pair.2 := by
  intro document hproper pair hread
  cases hproper with
  | @sequence items items_proper =>
    obtain ⟨a, b, rfl, ha, hb⟩ := pairOf_eq_ok_iff.mp hread
    have ha_proper : a.Proper := items_proper a List.mem_cons_self
    have hb_proper : b.Proper := items_proper b (List.mem_cons_of_mem _ List.mem_cons_self)
    exact ⟨hfirst a ha_proper _ ha, hsecond b hb_proper _ hb⟩
  | _ => cases hread

end Reader

namespace Schema

variable {α : Type} {fields : Fields} {name : String} {read : Reader α} {a : α}

theorem build_map {β : Type} {f : α → β} {schema : Schema α} (h : schema.build fields = .ok a) :
    (f <$> schema).build fields = .ok (f a) :=
  build_map_eq_ok_iff.mpr ⟨a, h, rfl⟩

/-- What two schemas give back, their combination gives back. -/
theorem build_seq {β : Type} {f : Schema (α → β)} {schema : Schema α} {g : α → β}
    (hf : f.build fields = .ok g) (h : schema.build fields = .ok a) :
    (f <*> schema).build fields = .ok (g a) :=
  build_seq_eq_ok_iff.mpr ⟨g, a, hf, h, rfl⟩

section

variable {write : α → Document}

/-- A field that is written is read back. -/
theorem build_required (h : read.Inverts write) (hvalue : fields.value? name = some (write a)) :
    (required name read).build fields = .ok a := by
  unfold required field
  dsimp only
  rw [hvalue]
  exact h a

theorem build_defaulted {default : α} (h : read.Inverts write)
    (hvalue : fields.value? name = some (write a)) :
    (defaulted name default read).build fields = .ok a := by
  unfold defaulted field
  dsimp only
  rw [hvalue]
  exact h a

/-- An optional field is read back, since no value is written as null. -/
theorem build_optional {value : Option α} (h : read.Inverts write)
    (hwrite : ∀ a, write a ≠ .null)
    (hvalue : fields.value? name = some (.optional write value)) :
    (optional name read).build fields = .ok value := by
  unfold optional field
  dsimp only
  rw [hvalue]
  exact h.orNull hwrite value

end

section

variable {P : α → Prop}

theorem of_build_required (h : read.Yields P)
    (hproper : ∀ entry ∈ fields, entry.2.Proper)
    (hbuild : (required name read).build fields = .ok a) : P a := by
  unfold required field at hbuild
  dsimp only at hbuild
  split at hbuild
  · rename_i value hvalue
    exact h value (hproper _ (mem_of_lookup_eq_some hvalue)) a hbuild
  · cases hbuild

theorem of_build_defaulted {default : α} (h : read.Yields P) (hdefault : P default)
    (hproper : ∀ entry ∈ fields, entry.2.Proper)
    (hbuild : (defaulted name default read).build fields = .ok a) : P a := by
  unfold defaulted field at hbuild
  dsimp only at hbuild
  split at hbuild
  · rename_i value hvalue
    exact h value (hproper _ (mem_of_lookup_eq_some hvalue)) a hbuild
  · cases hbuild
    exact hdefault

/-- What holds of all that a reader yields, holds of the value of an optional field. -/
theorem of_build_optional {value : Option α} (h : read.Yields P)
    (hproper : ∀ entry ∈ fields, entry.2.Proper)
    (hbuild : (optional name read).build fields = .ok value) : ∀ a ∈ value, P a := by
  unfold optional field at hbuild
  dsimp only at hbuild
  split at hbuild
  · rename_i document hdocument
    exact h.orNull document (hproper _ (mem_of_lookup_eq_some hdocument)) value hbuild
  · cases hbuild
    intro a ha
    cases ha

end

end Schema

namespace Quantity

def numbers : Quantity → List Float
  | .constant value => [value]
  | .parameter _ => []

theorem inverts_read : Reader.Inverts read toDocument := by
  intro quantity
  cases quantity with
  | constant value => rfl
  | parameter name => rfl

theorem toDocument_ne_null (quantity : Quantity) : quantity.toDocument ≠ .null := by
  cases quantity with
  | constant value => exact fun h => by cases h
  | parameter name => exact fun h => by cases h

theorem proper_toDocument {quantity : Quantity} (h : AllFinite quantity.numbers) :
    quantity.toDocument.Proper := by
  cases quantity with
  | constant value => exact .real (h value (List.mem_singleton.mpr rfl))
  | parameter name => exact .text

def numbersOf (quantities : List (Option Quantity)) : List Float :=
  quantities.flatMap fun quantity => quantity.toList.flatMap numbers

theorem allFinite_numbersOf_nil : AllFinite (numbersOf []) :=
  allFinite_nil

theorem allFinite_numbersOf_cons {quantity : Option Quantity} {rest : List (Option Quantity)} :
    AllFinite (numbersOf (quantity :: rest)) ↔
      (∀ q ∈ quantity, AllFinite q.numbers) ∧ AllFinite (numbersOf rest) := by
  unfold numbersOf
  rw [List.flatMap_cons, allFinite_append, allFinite_flatMap]
  simp only [Option.mem_toList]
  exact Iff.rfl

theorem proper_optional {quantity : Option Quantity} (h : ∀ q ∈ quantity, AllFinite q.numbers) :
    (Document.optional toDocument quantity).Proper :=
  .optional fun q hq => proper_toDocument (h q hq)

theorem yields_read : Reader.Yields read fun quantity => AllFinite quantity.numbers := by
  intro document hproper quantity hread
  cases hproper with
  | number hfinite =>
    cases hread
    exact allFinite_cons.mpr ⟨hfinite, allFinite_nil⟩
  | text =>
    cases hread
    exact allFinite_nil
  | _ => cases hread

end Quantity

namespace Schema

variable {fields : Fields} {key : String}

theorem of_build_quantity {quantity : Quantity} (hproper : ∀ entry ∈ fields, entry.2.Proper)
    (hbuild : (required key Quantity.read).build fields = .ok quantity) :
    AllFinite quantity.numbers := by
  have hfinite := of_build_required Quantity.yields_read hproper hbuild
  exact hfinite

theorem of_build_optionalQuantity {quantity : Option Quantity}
    (hproper : ∀ entry ∈ fields, entry.2.Proper)
    (hbuild : (optional key Quantity.read).build fields = .ok quantity) :
    ∀ q ∈ quantity, AllFinite q.numbers := by
  have hfinite := of_build_optional Quantity.yields_read hproper hbuild
  exact hfinite

theorem build_text {name : String} (hvalue : fields.value? key = some (.text name)) :
    (required key Reader.text).build fields = .ok name :=
  build_required Reader.inverts_text hvalue

theorem build_optionalText {text : Option String}
    (hvalue : fields.value? key = some (.optional .text text)) :
    (optional key Reader.text).build fields = .ok text :=
  build_optional Reader.inverts_text (fun _ hnull => by cases hnull) hvalue

theorem build_quantity {quantity : Quantity}
    (hvalue : fields.value? key = some quantity.toDocument) :
    (required key Quantity.read).build fields = .ok quantity :=
  build_required Quantity.inverts_read hvalue

theorem build_optionalQuantity {quantity : Option Quantity}
    (hvalue : fields.value? key = some (.optional Quantity.toDocument quantity)) :
    (optional key Quantity.read).build fields = .ok quantity :=
  build_optional Quantity.inverts_read Quantity.toDocument_ne_null hvalue

/-- All kinds of entries have a name and may have a comment. -/
theorem build_head {γ : Type} {f : String → Option String → γ} {name : String}
    {comment : Option String} (hname : fields.value? "name" = some (.text name))
    (hcomment : fields.value? "comment" = some (.optional .text comment)) :
    (f <$> required "name" Reader.text <*> optional "comment" Reader.text).build fields =
      .ok (f name comment) :=
  build_seq (build_map (build_text hname)) (build_optionalText hcomment)

end Schema

end FlowPlan
