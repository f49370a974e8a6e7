import FlowPlan.Proofs.Entry
import FlowPlan.Proofs.Untyped

namespace FlowPlan

open Schema

namespace Document

/-- Whether two documents are the same but for the order of the keys in their mappings. -/
inductive Reordered : Document → Document → Prop
  | null : Reordered .null .null
  | boolean {value : Bool} : Reordered (.boolean value) (.boolean value)
  | number {value : Numeral} : Reordered (.number value) (.number value)
  | text {value : String} : Reordered (.text value) (.text value)
  | sequence {items others : List Document} (same_length : items.length = others.length)
      (items_reordered : ∀ (index : ℕ) item other, items[index]? = some item →
        others[index]? = some other → Reordered item other) :
      Reordered (.sequence items) (.sequence others)
  | mapping {fields others : Fields} (same_keys : fields.keys.Perm others.keys)
      (values_reordered : ∀ key value other, fields.value? key = some value →
        others.value? key = some other → Reordered value other) :
      Reordered (.mapping fields) (.mapping others)

namespace Reordered

theorem of_forall₂ {items others : List Document} (h : List.Forall₂ Reordered items others) :
    Reordered (.sequence items) (.sequence others) := by
  obtain ⟨same_length, hitems⟩ := List.forall₂_iff_get.mp h
  refine .sequence same_length fun index item other hitem hother => ?_
  obtain ⟨hindex, rfl⟩ := List.getElem?_eq_some_iff.mp hitem
  obtain ⟨hindex', rfl⟩ := List.getElem?_eq_some_iff.mp hother
  exact hitems index hindex hindex'

/-- Sequences keep the order of their items. -/
theorem exists_items {items : List Document} {second : Document}
    (h : Reordered (.sequence items) second) :
    ∃ others, second = .sequence others ∧ List.Forall₂ Reordered items others := by
  cases h with
  | @sequence _ others same_length items_reordered =>
    refine ⟨others, rfl, List.forall₂_iff_get.mpr ⟨same_length, fun index hindex hindex' => ?_⟩⟩
    exact items_reordered index _ _ (List.getElem?_eq_getElem hindex)
      (List.getElem?_eq_getElem hindex')

theorem exists_fields {fields : Fields} {second : Document}
    (h : Reordered (.mapping fields) second) : ∃ others, second = .mapping others := by
  cases h with
  | @mapping _ others => exact ⟨others, rfl⟩

/-- Two mappings with the same keys are reordered when the values under each key are. -/
theorem mapping_of_forall {fields others : Fields} (same_keys : fields.keys.Perm others.keys)
    (h : ∀ entry ∈ fields, ∃ other, others.value? entry.1 = some other ∧ entry.2.Reordered other) :
    Reordered (.mapping fields) (.mapping others) := by
  refine .mapping same_keys fun key value other hvalue hother => ?_
  obtain ⟨found, hfound, hreordered⟩ := h (key, value) (mem_of_lookup_eq_some hvalue)
  cases hother.symm.trans hfound
  exact hreordered

theorem keys_perm {fields others : Fields} (h : Reordered (.mapping fields) (.mapping others)) :
    fields.keys.Perm others.keys := by
  cases h with
  | mapping same_keys _ => exact same_keys

/-- Under a key that both have, two reordered mappings have reordered values. -/
theorem value {fields others : Fields} (h : Reordered (.mapping fields) (.mapping others))
    {key : String} {value other : Document} (hvalue : fields.value? key = some value)
    (hother : others.value? key = some other) : value.Reordered other := by
  cases h with
  | mapping _ values_reordered => exact values_reordered key value other hvalue hother

/-- Reordering can be undone. The induction is on the relation, which follows the document. -/
theorem symm {first second : Document} (h : first.Reordered second) : second.Reordered first := by
  induction h with
  | null => exact .null
  | boolean => exact .boolean
  | number => exact .number
  | text => exact .text
  | sequence same_length _ ih =>
    exact .sequence same_length.symm fun index item other hitem hother =>
      ih index other item hother hitem
  | mapping same_keys _ ih =>
    exact .mapping same_keys.symm fun key value other hvalue hother =>
      ih key other value hother hvalue

end Reordered

end Document

namespace Document.Reordered

section

variable {first second : Fields} {key : String}

/-- What stands under a key in one of two mappings stands under it in the other, reordered. -/
theorem exists_value (h : Reordered (.mapping first) (.mapping second)) {value : Document}
    (hvalue : first.value? key = some value) :
    ∃ other, second.value? key = some other ∧ value.Reordered other := by
  have hkey : key ∈ second.keys := h.keys_perm.mem_iff.mp (Fields.exists_value?_iff.mp ⟨_, hvalue⟩)
  obtain ⟨other, hother⟩ := Fields.exists_value?_iff.mpr hkey
  exact ⟨other, hother, h.value hvalue hother⟩

theorem value?_eq_none (h : Reordered (.mapping first) (.mapping second))
    (hvalue : first.value? key = none) : second.value? key = none := by
  by_contra hsome
  obtain ⟨other, hother⟩ := Option.ne_none_iff_exists'.mp hsome
  obtain ⟨value, hfound, -⟩ := h.symm.exists_value hother
  rw [hvalue] at hfound
  cases hfound

theorem value?_eq_text (h : Reordered (.mapping first) (.mapping second)) {text : String}
    (hvalue : first.value? key = some (.text text)) : second.value? key = some (.text text) := by
  obtain ⟨other, hother, hreordered⟩ := h.exists_value hvalue
  cases hreordered
  exact hother

theorem mem_keys_iff (h : Reordered (.mapping first) (.mapping second)) :
    key ∈ first.keys ↔ key ∈ second.keys :=
  h.keys_perm.mem_iff

/-- Two mappings stay the same but for their order when a key is taken out of both, although their
last entries move into the gaps. -/
theorem takeOut (key : String) (h : Reordered (.mapping first) (.mapping second))
    (hfirst : first.keys.Nodup) (hsecond : second.keys.Nodup) :
    Reordered (.mapping (Fields.takeOut key first)) (.mapping (Fields.takeOut key second)) := by
  refine .mapping ?_ fun name value other hvalue hother => ?_
  -- the keys that are left are the same, and a value under one of them has not been touched
  · rw [List.perm_ext_iff_of_nodup (Fields.nodup_keys_takeOut hfirst)
      (Fields.nodup_keys_takeOut hsecond)]
    intro name
    rw [Fields.mem_keys_takeOut_iff hfirst, Fields.mem_keys_takeOut_iff hsecond, h.mem_keys_iff]
  · have hname : name ∈ (Fields.takeOut key first).keys := Fields.exists_value?_iff.mp ⟨_, hvalue⟩
    have hother_key : name ≠ key := ((Fields.mem_keys_takeOut_iff hfirst).mp hname).2
    rw [Fields.value?_takeOut hfirst hother_key] at hvalue
    rw [Fields.value?_takeOut hsecond hother_key] at hother
    exact h.value hvalue hother

end

/-- Reordering keeps a document proper. -/
theorem proper {first second : Document} (h : first.Reordered second) (hproper : first.Proper) :
    second.Proper := by
  -- by induction on the relation: each part of the second document has its match in the first
  induction h with
  | null => exact .null
  | boolean => exact .boolean
  | number => exact hproper
  | text => exact .text
  | @sequence items others same_length _ ih =>
    refine .sequence fun other hother => ?_
    obtain ⟨index, hindex, rfl⟩ := List.mem_iff_getElem.mp hother
    have hitem : index < items.length := same_length ▸ hindex
    exact ih index _ _ (List.getElem?_eq_getElem hitem) (List.getElem?_eq_getElem hindex)
      (hproper.items _ (List.getElem_mem hitem))
  | @mapping fields others same_keys values_reordered ih =>
    have hnodup : others.keys.Nodup := same_keys.nodup_iff.mp hproper.distinct_keys
    refine .mapping hnodup fun entry hentry => ?_
    have hother : others.value? entry.1 = some entry.2 := (lookup_eq_some_iff_mem hnodup).mpr hentry
    obtain ⟨value, hvalue, -⟩ :=
      (Reordered.mapping same_keys values_reordered).symm.exists_value hother
    exact ih entry.1 value entry.2 hvalue hother (hproper.values _ (mem_of_lookup_eq_some hvalue))

end Document.Reordered

/-- What is read out of the items of a sequence is read out of them reordered. -/
theorem forall₂_of_reordered {α : Type} {R : Document → α → Prop} {items others : List Document}
    {values : List α}
    (hR : ∀ {first second : Document} {a : α}, first.Proper → first.Reordered second →
      R first a → R second a)
    (hproper : ∀ item ∈ items, item.Proper) (hitems : List.Forall₂ Document.Reordered items others)
    (h : List.Forall₂ R items values) : List.Forall₂ R others values := by
  induction hitems generalizing values with
  | nil => exact h
  | cons hitem _ ih =>
    obtain ⟨a, rest, ha, hrest, rfl⟩ := List.forall₂_cons_left_iff.mp h
    obtain ⟨hfirst, hlater⟩ := List.forall_mem_cons.mp hproper
    exact .cons (hR hfirst hitem ha) (ih hlater hrest)

/-- Whether a reader makes nothing of the order of keys. -/
class Reader.Unordered {α : Type} (read : Reader α) : Prop where
  read_of_reordered : ∀ {first second : Document} {a : α}, first.Proper →
    first.Reordered second → read first = .ok a → read second = .ok a

namespace Reader

variable {α β : Type}

/-- What reads neither sequences nor mappings sees no keys. -/
theorem unordered_of_scalar {read : Reader α}
    (hsequence : ∀ items a, read (.sequence items) ≠ .ok a)
    (hmapping : ∀ fields a, read (.mapping fields) ≠ .ok a) : Unordered read where
  read_of_reordered := by
    intro first second a _ hreordered hread
    cases hreordered with
    | sequence => exact absurd hread (hsequence _ a)
    | mapping => exact absurd hread (hmapping _ a)
    | _ => exact hread

instance : Unordered text :=
  unordered_of_scalar (fun _ _ h => by cases h) (fun _ _ h => by cases h)

instance : Unordered path :=
  unordered_of_scalar (fun _ _ h => by cases h) (fun _ _ h => by cases h)

instance : Unordered number :=
  unordered_of_scalar (fun _ _ h => by cases h) (fun _ _ h => by cases h)

instance : Unordered count :=
  unordered_of_scalar (fun _ _ h => by cases h) (fun _ _ h => by cases h)

instance : Unordered date :=
  unordered_of_scalar (fun _ _ h => by cases h) (fun _ _ h => by cases h)

instance : Unordered Quantity.read :=
  unordered_of_scalar (fun _ _ h => by cases h) (fun _ _ h => by cases h)

instance (item : Reader α) [Unordered item] : Unordered (listOf item) where
  read_of_reordered := by
    intro first second values hproper hreordered hread
    cases first with
    | sequence items =>
      obtain ⟨others, rfl, hitems⟩ := hreordered.exists_items
      have hvalues := mapM_eq_ok_iff.mp hread
      exact mapM_eq_ok_iff.mpr
        (forall₂_of_reordered Unordered.read_of_reordered hproper.items hitems hvalues)
    | _ => cases hread

instance (wanted : Wanted) (first : Reader α) (second : Reader β) [Unordered first]
    [Unordered second] : Unordered (pairOf wanted first second) where
  read_of_reordered := by
    intro document other pair hproper hreordered hread
    cases document with
    | sequence items =>
      obtain ⟨a, b, rfl, ha, hb⟩ := pairOf_eq_ok_iff.mp hread
      obtain ⟨others, rfl, hitems⟩ := hreordered.exists_items
      obtain ⟨a', rest, hfirst, hrest, rfl⟩ := List.forall₂_cons_left_iff.mp hitems
      obtain ⟨b', rest, hsecond, hnil, rfl⟩ := List.forall₂_cons_left_iff.mp hrest
      cases hnil
      have ha_proper : a.Proper := hproper.items a (by simp)
      have hb_proper : b.Proper := hproper.items b (by simp)
      exact pairOf_eq_ok_iff.mpr ⟨a', b', rfl, Unordered.read_of_reordered ha_proper hfirst ha,
        Unordered.read_of_reordered hb_proper hsecond hb⟩
    | _ => cases hread

instance (read : Reader α) [Unordered read] : Unordered (orNull read) where
  read_of_reordered := by
    intro first second value hproper hreordered hread
    by_cases hnull : first = .null
    · cases hnull
      cases hreordered
      exact hread
    · have hsecond : second ≠ .null := by
        rintro rfl
        cases hreordered
        exact hnull rfl
      obtain ⟨a, ha, rfl⟩ := (orNull_eq_ok_iff hnull).mp hread
      exact (orNull_eq_ok_iff hsecond).mpr
        ⟨a, Unordered.read_of_reordered hproper hreordered ha, rfl⟩

instance (options : List (String × α)) : Unordered (choice options) where
  read_of_reordered := by
    intro first second a _ hreordered hread
    cases first with
    | text word =>
      cases hreordered
      exact hread
    | mapping fields =>
      obtain ⟨others, rfl⟩ := hreordered.exists_fields
      match fields, hread with
      | [(word, payload)], hread =>
        obtain ⟨chosen, hchosen, hread⟩ := bind_eq_ok_iff.mp hread
        cases payload with
        | null =>
          -- the other mapping has this key only, with null under it too
          obtain ⟨entry, rfl⟩ := List.length_eq_one_iff.mp
            ((List.length_map _).symm.trans hreordered.keys_perm.length_eq.symm)
          obtain ⟨other, hother, hpayload⟩ := hreordered.exists_value List.lookup_cons_self
          cases hpayload
          obtain rfl := List.mem_singleton.mp (mem_of_lookup_eq_some hother)
          exact bind_eq_ok_iff.mpr ⟨chosen, hchosen, hread⟩
        | _ => cases hread
    | _ => cases hread

end Reader

class Schema.Unordered {α : Type} (schema : Schema α) : Prop where
  build_of_reordered : ∀ {first second : Fields} {a : α}, (Document.mapping first).Proper →
    (Document.mapping first).Reordered (.mapping second) →
      schema.build first = .ok a → schema.build second = .ok a

namespace Schema

variable {α β : Type}

instance (name : String) (read : Reader α) (absent : Except Mismatch α) [read.Unordered] :
    (field name read absent).Unordered where
  build_of_reordered := by
    intro first second a hproper hreordered hbuild
    unfold field at hbuild ⊢
    dsimp only at hbuild ⊢
    cases hvalue : first.value? name with
    | none =>
      rw [hvalue] at hbuild
      rw [hreordered.value?_eq_none hvalue]
      exact hbuild
    | some value =>
      rw [hvalue] at hbuild
      obtain ⟨other, hother, hvalues⟩ := hreordered.exists_value hvalue
      rw [hother]
      have hvalue_proper : value.Proper := hproper.values _ (mem_of_lookup_eq_some hvalue)
      exact Reader.Unordered.read_of_reordered hvalue_proper hvalues hbuild

instance (name : String) (read : Reader α) [read.Unordered] : (required name read).Unordered := by
  unfold required
  infer_instance

instance (name : String) (read : Reader α) [read.Unordered] : (optional name read).Unordered := by
  unfold optional
  infer_instance

instance (name : String) (default : α) (read : Reader α) [read.Unordered] :
    (defaulted name default read).Unordered := by
  unfold defaulted
  infer_instance

instance (f : α → β) (schema : Schema α) [schema.Unordered] : (f <$> schema).Unordered where
  build_of_reordered := by
    intro first second b hproper hreordered hbuild
    obtain ⟨a, ha, rfl⟩ := build_map_eq_ok_iff.mp hbuild
    exact build_map (Unordered.build_of_reordered hproper hreordered ha)

instance (f : Schema (α → β)) (schema : Schema α) [f.Unordered] [schema.Unordered] :
    (f <*> schema).Unordered where
  build_of_reordered := by
    intro first second b hproper hreordered hbuild
    obtain ⟨g, a, hg, ha, rfl⟩ := build_seq_eq_ok_iff.mp hbuild
    exact build_seq (Unordered.build_of_reordered hproper hreordered hg)
      (Unordered.build_of_reordered hproper hreordered ha)

/-- A schema that is indifferent to order reads the same value from a reordered mapping. -/
theorem read_of_reordered {schema : Schema α} [schema.Lawful] [schema.Unordered]
    {first second : Fields} {a : α} (hproper : (Document.mapping first).Proper)
    (hreordered : (Document.mapping first).Reordered (.mapping second))
    (hread : schema.read first = .ok a) : schema.read second = .ok a := by
  have hsecond : second.keys.Nodup := (hreordered.proper hproper).distinct_keys
  rw [read_eq_ok_iff hproper.distinct_keys] at hread
  rw [read_eq_ok_iff hsecond]
  exact Unordered.build_of_reordered hproper hreordered hread

/-- What is read, and whether all keys are known, are the same in both orders. -/
theorem Reads.of_reordered {schema : Schema α} [schema.Lawful] [schema.Unordered]
    {emit : α → Document} {strictness : Strictness} {first second : Fields} {a : α}
    (h : schema.Reads emit strictness first a) (hproper : (Document.mapping first).Proper)
    (hreordered : (Document.mapping first).Reordered (.mapping second)) :
    schema.Reads emit strictness second a where
  read := read_of_reordered hproper hreordered h.read
  known := by
    intro hstrict
    refine Fields.leftOver_eq_nil_iff.mpr fun key hkey => ?_
    exact Fields.leftOver_eq_nil_iff.mp (h.known hstrict) key (hreordered.mem_keys_iff.mpr hkey)

end Schema

instance : Reader.Unordered Aggregation.read := by
  unfold Aggregation.read
  infer_instance

instance : Reader.Unordered Predicate.read := by
  unfold Predicate.read
  infer_instance

namespace PiecewiseStep

instance : schema.Unordered := by
  unfold schema
  infer_instance

theorem read_eq_ok_iff {document : Document} (h : ∀ fields, document ≠ .mapping fields)
    {step : PiecewiseStep} :
    read document = .ok step ↔
      Reader.pairOf .step (Reader.orNull Quantity.read) (Reader.orNull Quantity.read) document =
        .ok (step.cost, step.maxFlow) := by
  unfold read
  split
  · exact absurd rfl (h _)
  · rw [bind_eq_ok_iff]
    constructor
    · rintro ⟨pair, hpair, hstep⟩
      cases hstep
      exact hpair
    · exact fun hpair => ⟨_, hpair, rfl⟩

/-- A step is read alike from a mapping in any order; one that is a sequence keeps its order. -/
instance : Reader.Unordered read where
  read_of_reordered := by
    intro first second step hproper hreordered hread
    by_cases hmapping : ∃ fields, first = .mapping fields
    · obtain ⟨fields, rfl⟩ := hmapping
      obtain ⟨others, rfl⟩ := hreordered.exists_fields
      exact read_of_reordered hproper hreordered hread
    · have hfirst : ∀ fields, first ≠ .mapping fields := fun fields h => hmapping ⟨fields, h⟩
      have hsecond : ∀ fields, second ≠ .mapping fields := by
        rintro fields rfl
        cases hreordered
        exact hfirst _ rfl
      rw [read_eq_ok_iff hfirst] at hread
      rw [read_eq_ok_iff hsecond]
      exact Reader.Unordered.read_of_reordered hproper hreordered hread

end PiecewiseStep

end FlowPlan
