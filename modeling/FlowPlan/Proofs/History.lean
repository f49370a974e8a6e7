import FlowPlan.Proofs.Collection
import FlowPlan.Proofs.KeptKeys
import FlowPlan.Proofs.Operation

namespace FlowPlan

/-- What can be done with a collection. Loading makes a new one in its place. -/
inductive Collection.Operation (α : Type) where
  | load (strictness : Strictness) (documents : List Document)
  | insert (a : α)

/-- Entries under keys, in the order in which the keys came. -/
abbrev Keyed (α : Type) := List (String × α)

namespace Keyed

variable {α : Type} [Entity α]

/-- Adds an entry under its name. A name that is there already is refused before anything
changes. -/
def insert (map : Keyed α) (a : α) : Except ModelError Unit × Keyed α :=
  if Entity.name a ∈ map.map Prod.fst then
    (.error (.duplicateName (Entity.sect α) (Entity.name a)), map)
  else
    (.ok (), Plan.insert map (Entity.name a) a)

/-- Loads the entries from position `index` on, each into the map that the others have left. -/
def loadFrom (strictness : Strictness) (map : Keyed α) (index : ℕ) :
    List Document → Except ModelError (Keyed α)
  | [] => .ok map
  | document :: rest => do
    let a ← Load.result (Entity.load strictness index document)
    match insert map a with
    | (.ok (), later) => loadFrom strictness later (index + 1) rest
    | (.error e, _) => .error e

/-- Each operation keeps what is held of a collection. -/
def step (map : Keyed α) : Collection.Operation α → Keyed α
  | .load strictness documents => (loadFrom strictness [] 0 documents).toOption.getD map
  | .insert a => (insert map a).2

/-- What is held of the empty collection is held after any history. -/
def run (operations : List (Collection.Operation α)) : Keyed α :=
  operations.foldl step []

end Keyed

namespace Collection

variable {α : Type} [Entity α]

def keyed (collection : Collection α) : Keyed α :=
  collection.entities.map fun a => (Entity.name a, a)

theorem map_fst_keyed (collection : Collection α) :
    collection.keyed.map Prod.fst = collection.names :=
  List.map_map

/-- The collection that an operation leaves: the same one if it fails. -/
def step (collection : Collection α) : Operation α → Collection α
  | .load strictness documents =>
    (Load.result (load strictness documents)).toOption.getD collection
  | .insert a => (collection.insert a).toOption.getD collection

def run (operations : List (Operation α)) : Collection α :=
  operations.foldl step empty

/-- All entries that have been handed to a collection since it was made, in order. -/
def offered (operations : List (Operation α)) : List α :=
  operations.foldl offer []
where
  offer (before : List α) : Operation α → List α
    | .load strictness documents =>
      (Load.result (load (α := α) strictness documents)).toOption.elim before entities
    | .insert a => before ++ [a]

section

variable {collection next : Collection α} {a : α}

/-- What is inserted has a name that is new. -/
theorem not_mem_names_of_insert (h : collection.insert a = .ok next) :
    Entity.name a ∉ collection.names := by
  intro htaken
  rw [insert_eq_error_iff.mpr ⟨htaken, rfl⟩] at h
  cases h

/-- The map refuses what the collection refuses, and adds what it adds. -/
theorem keyed_insert (collection : Collection α) (a : α) :
    Keyed.insert collection.keyed a =
      match collection.insert a with
      | .ok next => (.ok (), next.keyed)
      | .error e => (.error e, collection.keyed) := by
  unfold Keyed.insert
  rw [map_fst_keyed]
  -- both forms of the collection ask the same question first: is the name taken?
  cases hinsert : collection.insert a with
  | error e =>
    obtain ⟨htaken, rfl⟩ := insert_eq_error_iff.mp hinsert
    rw [if_pos htaken]
  | ok next =>
    have hfree := not_mem_names_of_insert hinsert
    have hnew : Entity.name a ∉ collection.keyed.map Prod.fst := by
      rwa [map_fst_keyed]
    have hnext : next.keyed = collection.keyed ++ [(Entity.name a, a)] := by
      unfold keyed
      rw [insert_eq_ok_iff.mp hinsert, List.map_append, List.map_cons, List.map_nil]
    rw [if_neg hfree, Plan.insert_of_new hnew]
    exact congrArg _ hnext.symm

end

/-- Loading goes the same way on the map of the entries as on their list. -/
theorem keyed_loadFrom (strictness : Strictness) (start : Collection α) (index : ℕ)
    (documents : List Document) :
    Keyed.loadFrom strictness start.keyed index documents =
      (Load.result (loadFrom strictness start index documents)).map keyed := by
  induction documents generalizing start index with
  | nil => rfl
  | cons document rest ih =>
    rw [Keyed.loadFrom, loadFrom, Load.result_bind]
    cases Load.result (Entity.load (α := α) strictness index document) with
    | error e => rfl
    | ok a =>
      -- both add the entry at this point, or refuse it with the same error
      show (match Keyed.insert start.keyed a with
        | (.ok (), later) => Keyed.loadFrom strictness later (index + 1) rest
        | (.error e, _) => .error e) =
          (Load.result (liftM (start.insert a) >>= fun next =>
            loadFrom strictness next (index + 1) rest)).map keyed
      rw [keyed_insert, Load.result_bind]
      change _ = (start.insert a >>= fun next =>
        Load.result (loadFrom strictness next (index + 1) rest)).map keyed
      cases start.insert a with
      | error e => rfl
      | ok next => exact ih next (index + 1)

/-- One operation on the map leaves the map of what it leaves of the list. -/
theorem keyed_step (collection : Collection α) (operation : Operation α) :
    Keyed.step collection.keyed operation = (collection.step operation).keyed := by
  -- a load starts from nothing, and an insertion from the collection
  cases operation with
  | load strictness documents =>
    have hloaded := keyed_loadFrom strictness (empty : Collection α) 0 documents
    change (Keyed.loadFrom strictness (empty : Collection α).keyed 0 documents).toOption.getD _ = _
    rw [hloaded]
    change _ = ((Load.result (loadFrom strictness empty 0 documents)).toOption.getD
      collection).keyed
    cases Load.result (loadFrom strictness (empty : Collection α) 0 documents) with
    | error e => rfl
    | ok loaded => rfl
  | insert a =>
    change (Keyed.insert collection.keyed a).2 = ((collection.insert a).toOption.getD
      collection).keyed
    rw [keyed_insert]
    cases collection.insert a with
    | error e => rfl
    | ok next => rfl

/-- So does a whole history, by induction on the operations. -/
theorem keyed_run (operations : List (Operation α)) :
    Keyed.run operations = (run operations).keyed :=
  (List.foldl_hom keyed keyed_step : operations.foldl Keyed.step (keyed empty) = _)

/-- Whether a collection holds entries that have been handed to it one after the other: in this
order, and under each name the first one. -/
structure Holds (collection : Collection α) (offered : List α) : Prop where
  in_order : collection.entities.Sublist offered
  first_stays : ∀ name, collection.find? name = offered.find? fun a => Entity.name a == name

namespace Holds

variable {collection : Collection α} {before : List α}

theorem entities (collection : Collection α) : collection.Holds collection.entities where
  in_order := List.Sublist.refl _
  first_stays := fun _ => rfl

theorem insert (h : collection.Holds before) (a : α) :
    (collection.step (.insert a)).Holds (before ++ [a]) := by
  change ((collection.insert a).toOption.getD collection).Holds (before ++ [a])
  cases hinsert : collection.insert a with
  | ok next =>
    have hentities : next.entities = collection.entities ++ [a] := insert_eq_ok_iff.mp hinsert
    constructor
    · change next.entities.Sublist (before ++ [a])
      rw [hentities]
      exact h.in_order.append (List.Sublist.refl _)
    · intro name
      change next.entities.find? _ = _
      rw [hentities, List.find?_append, List.find?_append]
      exact congrArg (Option.or · _) (h.first_stays name)
  | error e =>
    obtain ⟨htaken, -⟩ := insert_eq_error_iff.mp hinsert
    constructor
    · exact h.in_order.trans (List.sublist_append_left _ _)
    · intro name
      change collection.find? name = _
      rw [List.find?_append, ← h.first_stays]
      cases hfound : collection.find? name with
      | some found => rfl
      | none =>
        -- the name of the refused entry is taken, so it is another one
        have hother : Entity.name a ≠ name := by
          rintro rfl
          rw [find?_eq_none_iff, contains, List.contains_iff_mem.mpr htaken] at hfound
          cases hfound
        rw [List.find?_singleton, if_neg (by simpa using hother)]
        rfl

theorem step (h : collection.Holds before) (operation : Operation α) :
    (collection.step operation).Holds (offered.offer before operation) := by
  cases operation with
  | insert a => exact h.insert a
  | load strictness documents =>
    change ((Load.result (load strictness documents)).toOption.getD collection).Holds
      ((Load.result (load strictness documents)).toOption.elim before Collection.entities)
    cases Load.result (load (α := α) strictness documents) with
    | error e => exact h
    | ok loaded => exact .entities loaded

theorem run (operations : List (Operation α)) : (run operations).Holds (offered operations) := by
  -- by induction on the operations, from any collection that holds what it has been handed so far
  have hfrom (collection : Collection α) (before : List α) (h : collection.Holds before) :
      (operations.foldl Collection.step collection).Holds
        (operations.foldl offered.offer before) := by
    induction operations generalizing collection before with
    | nil => exact h
    | cons operation rest ih => exact ih _ _ (h.step operation)
  exact hfrom empty [] (.entities empty)

end Holds

def LoadsAlone (strictness : Strictness) (document : Document) (a : α) : Prop :=
  ∃ single : Collection α,
    Load.result (load strictness [document]) = .ok single ∧ single.entities = [a]

theorem loadsAlone_iff {strictness : Strictness} {document : Document} {a : α} :
    LoadsAlone strictness document a ↔ Entity.Loads strictness document a := by
  constructor
  · rintro ⟨single, hload, hentities⟩
    have hall := load_eq_ok_iff.mp hload
    rw [hentities] at hall
    obtain ⟨found, rest, hfound, -, hsame⟩ := List.forall₂_cons_left_iff.mp hall
    cases hsame
    exact hfound
  · intro h
    have hnodup : ([a].map Entity.name).Nodup := List.nodup_singleton _
    exact ⟨⟨[a], hnodup⟩, load_eq_ok_iff.mpr (.cons h .nil), rfl⟩

theorem loadsAlone_eq {strictness : Strictness} :
    (LoadsAlone strictness : Document → α → Prop) = Entity.Loads strictness := by
  funext document a
  exact propext loadsAlone_iff

section

variable {strictness : Strictness} {documents earlier later : List Document}
  {collection : Collection α}

/-- A list of documents is loaded when each document is on its own, and the names of what is loaded
differ. -/
theorem exists_load_iff :
    (∃ collection : Collection α, Load.result (load strictness documents) = .ok collection) ↔
      ∃ loaded : List α, List.Forall₂ (LoadsAlone strictness) documents loaded ∧
        (loaded.map Entity.name).Nodup := by
  rw [loadsAlone_eq]
  constructor
  · rintro ⟨collection, hload⟩
    exact ⟨collection.entities, load_eq_ok_iff.mp hload, collection.nodup⟩
  · rintro ⟨loaded, hall, hnodup⟩
    exact ⟨⟨loaded, hnodup⟩, load_eq_ok_iff.mpr hall⟩

theorem size_of_load (h : Load.result (load strictness documents) = .ok collection) :
    collection.size = documents.length :=
  (load_eq_ok_iff.mp h).length_eq.symm

/-- What a document loads as stands in its place, and is found under its name. -/
theorem exists_of_load (h : Load.result (load strictness documents) = .ok collection) {index : ℕ}
    {document : Document} (hdocument : documents[index]? = some document) :
    ∃ a, LoadsAlone strictness document a ∧ collection.entities[index]? = some a ∧
      collection.get (Entity.name a) = .ok a := by
  obtain ⟨a, ha, hloads⟩ := exists_of_getElem? (load_eq_ok_iff.mp h) hdocument
  exact ⟨a, loadsAlone_iff.mpr hloads, ha, get_eq_ok_iff.mpr ⟨List.mem_of_getElem? ha, rfl⟩⟩

/-- Insertions one after the other succeed when the entries fit at the end of the collection. -/
theorem foldlM_insert_eq_ok_iff {start next : Collection α} {entities : List α} :
    entities.foldlM insert start = .ok next ↔ next.entities = start.entities ++ entities := by
  induction entities generalizing start with
  | nil =>
    rw [List.foldlM_nil, List.append_nil]
    constructor
    · intro h
      cases h
      rfl
    · exact fun h => congrArg Except.ok (ext_entities h.symm)
  | cons a rest ih =>
    rw [List.foldlM_cons, bind_eq_ok_iff]
    constructor
    · rintro ⟨middle, hmiddle, h⟩
      rw [ih.mp h, insert_eq_ok_iff.mp hmiddle, List.append_assoc, List.singleton_append]
    · intro h
      obtain ⟨middle, hmiddle, hentities⟩ := exists_insert_eq_ok h
      refine ⟨middle, hmiddle, ih.mpr ?_⟩
      rw [h, hentities, ← List.append_cons]

/-- Loading a list of documents is loading its first part, and inserting the entries of its second
part. -/
theorem exists_of_load_append
    (h : Load.result (load strictness (earlier ++ later)) = .ok collection) :
    ∃ first second : Collection α, Load.result (load strictness earlier) = .ok first ∧
      Load.result (load strictness later) = .ok second ∧
        second.entities.foldlM insert first = .ok collection := by
  -- each document has its entry, so the entries are split where the documents are
  have hall := load_eq_ok_iff.mp h
  have hfirst := List.forall₂_take earlier.length hall
  have hsecond := List.forall₂_drop earlier.length hall
  rw [List.take_left] at hfirst
  rw [List.drop_left] at hsecond
  have hnodup := collection.nodup
  rw [← List.take_append_drop earlier.length collection.entities, List.map_append] at hnodup
  refine ⟨⟨_, hnodup.of_append_left⟩, ⟨_, hnodup.of_append_right⟩, load_eq_ok_iff.mpr hfirst,
    load_eq_ok_iff.mpr hsecond, foldlM_insert_eq_ok_iff.mpr ?_⟩
  exact (List.take_append_drop _ _).symm

end

/-- After any operations, failed ones among them, a collection is a map from the names of entries to
these entries in the order in which they came, where a new name comes last and a taken one is
refused. It is loaded as if its entries were inserted one after the other. -/
theorem holds_in_order :
    (∀ operations : List (Operation α),
      Keyed.run operations = (run operations).keyed ∧
      (run operations).names.Nodup ∧ (run operations).Holds (offered operations) ∧
      (∀ name a, (run operations).get name = .ok a ↔
        a ∈ (run operations).entities ∧ Entity.name a = name) ∧
      ∀ a, ((∃ e, (run operations).insert a = .error e) ↔
          Entity.name a ∈ (run operations).names) ∧
        (∀ e, (run operations).insert a = .error e →
          Keyed.insert (Keyed.run operations) a = (.error e, Keyed.run operations)) ∧
        ∀ next, (run operations).insert a = .ok next →
          next.entities = (run operations).entities ++ [a]) ∧
    ∀ (strictness : Strictness) (documents : List Document),
      ((∃ collection : Collection α, Load.result (load strictness documents) = .ok collection) ↔
        ∃ loaded : List α, List.Forall₂ (LoadsAlone strictness) documents loaded ∧
          (loaded.map Entity.name).Nodup) ∧
      ∀ collection : Collection α, Load.result (load strictness documents) = .ok collection →
        collection.size = documents.length ∧
        (∀ (index : ℕ) document, documents[index]? = some document →
          ∃ a, LoadsAlone strictness document a ∧ collection.entities[index]? = some a ∧
            collection.get (Entity.name a) = .ok a) ∧
        ∀ earlier later, documents = earlier ++ later →
          ∃ first second : Collection α, Load.result (load strictness earlier) = .ok first ∧
            Load.result (load strictness later) = .ok second ∧
              second.entities.foldlM insert first = .ok collection := by
  -- first what holds after any operations, then what loading adds to it
  refine ⟨fun operations => ?_, fun strictness documents => ⟨exists_load_iff, ?_⟩⟩
  · refine ⟨keyed_run operations, (run operations).nodup, .run operations,
      fun name a => get_eq_ok_iff, fun a => ⟨?_, fun e he => ?_, fun next => insert_eq_ok_iff.mp⟩⟩
    · simp only [insert_eq_error_iff, exists_and_left, exists_eq, and_true]
    · rw [keyed_run, keyed_insert, he]
  · intro collection hload
    refine ⟨size_of_load hload, fun index document => exists_of_load hload, ?_⟩
    rintro earlier later rfl
    exact exists_of_load_append hload

def pumpedMain : List Document := [
  .mapping [("type", .text "Input"), ("name", .text "intake")],
  .mapping [("type", .text "Output"), ("name", .text "outfall")]]

/-- The main is laid, a third node is refused and then added under another name, and a new main with
the same end twice is not laid. -/
def works : List (Operation Node) := [
  .load .strict pumpedMain,
  .insert (.link ⟨"intake", none, none, none, none⟩),
  .insert (.link ⟨"pump", none, none, none, none⟩),
  .load .strict (pumpedMain ++ pumpedMain)]

theorem holds_in_order_pumpedMain :
    ∃ laid : Collection Node, Load.result (load .strict pumpedMain) = .ok laid ∧ laid.size = 2 ∧
      (run works).names = ["intake", "outfall", "pump"] ∧ Keyed.run works = (run works).keyed ∧
      ¬∃ collection : Collection Node,
        Load.result (load .strict (pumpedMain ++ pumpedMain)) = .ok collection := by
  have hlaid : (Load.result (load (α := Node) .strict pumpedMain)).toOption.isSome = true := by
    decide +kernel
  obtain ⟨laid, hlaid⟩ := isSome_toOption_iff.mp hlaid
  have hloading := (holds_in_order (α := Node)).2 .strict pumpedMain
  have hrefused : (Load.result
      (load (α := Node) .strict (pumpedMain ++ pumpedMain))).toOption.isSome = false := by
    decide +kernel
  refine ⟨laid, hlaid, (hloading.2 laid hlaid).1, by decide +kernel,
    (holds_in_order.1 works).1, ?_⟩
  rw [← isSome_toOption_iff, hrefused]
  exact Bool.false_ne_true

end Collection

end FlowPlan
