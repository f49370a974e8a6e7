import FlowPlan.Proofs.Attribution

namespace FlowPlan

/-- A pass over a list fails at its first item that fails. -/
theorem forM_eq_error_iff {ε α : Type} {f : α → Except ε Unit} {xs : List α} {e : ε} :
    xs.forM f = .error e ↔ ∃ before x after, xs = before ++ x :: after ∧
      (∀ y ∈ before, f y = .ok ()) ∧ f x = .error e := by
  induction xs with
  | nil =>
    constructor
    · intro h
      cases h
    · rintro ⟨before, x, after, hsplit, -⟩
      simp at hsplit
  | cons first rest ih =>
    rw [List.forM, bind_eq_error_iff, ih]
    constructor
    · rintro (hfirst | ⟨⟨⟩, hfirst, before, x, after, rfl, hbefore, hx⟩)
      · exact ⟨[], first, rest, rfl, List.forall_mem_nil _, hfirst⟩
      · exact ⟨first :: before, x, after, rfl, List.forall_mem_cons.mpr ⟨hfirst, hbefore⟩, hx⟩
    · rintro ⟨before, x, after, hsplit, hbefore, hx⟩
      cases before with
      | nil =>
        cases hsplit
        exact Or.inl hx
      | cons y before =>
        cases hsplit
        obtain ⟨hy, hbefore⟩ := List.forall_mem_cons.mp hbefore
        exact Or.inr ⟨(), hy, before, x, after, rfl, hbefore, hx⟩

namespace Load

variable {α β : Type}

def verdict (load : Load α) : Except ModelError Unit :=
  load.result.map fun _ => ()

theorem verdict_eq_error_iff {load : Load α} {e : ModelError} :
    load.verdict = .error e ↔ load.result = .error e := by
  unfold verdict
  cases load.result with
  | error e' => simp [Except.map]
  | ok a => simp [Except.map]

/-- What is loaded first decides, unless it succeeds. -/
theorem verdict_bind {x : Load α} {f : α → Load β} {rest : Except ModelError Unit}
    (h : ∀ a, (f a).verdict = rest) : verdict (x >>= f) = x.verdict >>= fun _ => rest := by
  unfold verdict
  rw [result_bind]
  cases x.result with
  | error e => rfl
  | ok a => exact h a

end Load

theorem BelongsTo.verdict {α : Type} {sect : Section} {load : Load α}
    (h : BelongsTo sect load.result) : BelongsTo sect load.verdict :=
  fun e he => h e (Load.verdict_eq_error_iff.mp he)

/-- The place of an entry, seen from the one after the first. -/
theorem place_cons (index : ℕ) (first : Document) (earlier : List Document) :
    index + (first :: earlier).length = index + 1 + earlier.length := by
  rw [List.length_cons]
  omega

namespace Collection

variable {α : Type} [Entity α] {strictness : Strictness} {start : Collection α} {index : ℕ}
  {e : ModelError}

/-- Whether loading stops at an entry: those before it are loaded, each on its own and under names
that are distinct and not taken; it is not loaded itself, or its name is taken. -/
def StopsAt (strictness : Strictness) (start : Collection α) (index : ℕ) (earlier : List Document)
    (document : Document) (e : ModelError) : Prop :=
  ∃ loaded : List α, List.Forall₂ (Entity.Loads strictness) earlier loaded ∧
    ((start.entities ++ loaded).map Entity.name).Nodup ∧
    ((Entity.load strictness (index + earlier.length) document : Load α).result = .error e ∨
      ∃ a : α, Entity.Loads strictness document a ∧
        Entity.name a ∈ (start.entities ++ loaded).map Entity.name ∧
        e = .duplicateName (Entity.sect α) (Entity.name a))

/-- A section fails at an entry, after all entries before it have been loaded and inserted. -/
theorem stopsAt_of_loadFrom {documents : List Document}
    (h : (loadFrom strictness start index documents).result = .error e) :
    ∃ earlier document later, documents = earlier ++ document :: later ∧
      StopsAt strictness start index earlier document e := by
  -- by induction on the documents: each of them fails to load, or to be inserted, or is passed
  induction documents generalizing start index with
  | nil => cases h
  | cons document rest ih =>
    rw [loadFrom, Load.result_bind, bind_eq_error_iff] at h
    rcases h with h | ⟨a, ha, h⟩
    · refine ⟨[], document, rest, rfl, [], .nil, ?_, Or.inl h⟩
      rw [List.append_nil]
      exact start.nodup
    · have hloads : Entity.Loads strictness document a := Entity.load_eq_ok_iff.mp ha
      rw [Load.result_bind, bind_eq_error_iff] at h
      rcases h with h | ⟨next, hnext, h⟩
      · obtain ⟨htaken, rfl⟩ := insert_eq_error_iff.mp h
        refine ⟨[], document, rest, rfl, [], .nil, ?_, Or.inr ⟨a, hloads, ?_, rfl⟩⟩
        · rw [List.append_nil]
          exact start.nodup
        · rw [List.append_nil]
          exact htaken
      · obtain ⟨earlier, stop, later, rfl, loaded, hloaded, hnodup, hstop⟩ := ih h
        -- what is loaded so far grows by the first entry, and the places of the rest do not change
        have hentities : next.entities ++ loaded = start.entities ++ a :: loaded := by
          rw [insert_eq_ok_iff.mp hnext, List.append_assoc, List.singleton_append]
        rw [hentities] at hnodup hstop
        rw [← place_cons index document] at hstop
        exact ⟨document :: earlier, stop, later, rfl, a :: loaded, .cons hloads hloaded, hnodup,
          hstop⟩

/-- What comes after the entry at which loading stops has no say. -/
theorem loadFrom_of_stopsAt {earlier : List Document} {document : Document}
    (h : StopsAt strictness start index earlier document e) (later : List Document) :
    (loadFrom strictness start index (earlier ++ document :: later)).result = .error e := by
  -- by induction on the documents before, of which each is loaded and inserted
  induction earlier generalizing start index with
  | nil =>
    obtain ⟨loaded, hloaded, hnodup, hstop⟩ := h
    cases hloaded
    rw [List.append_nil] at hstop
    rw [List.nil_append, loadFrom, Load.result_bind, bind_eq_error_iff]
    rcases hstop with hfail | ⟨a, hloads, htaken, he⟩
    · exact Or.inl hfail
    · refine Or.inr ⟨a, Entity.load_eq_ok_iff.mpr hloads, ?_⟩
      rw [Load.result_bind, bind_eq_error_iff]
      exact Or.inl (insert_eq_error_iff.mpr ⟨htaken, he⟩)
  | cons first earlier ih =>
    obtain ⟨_, hloaded, hnodup, hstop⟩ := h
    obtain ⟨a, loaded, hfirst, hrest, rfl⟩ := List.forall₂_cons_left_iff.mp hloaded
    let collection : Collection α := ⟨start.entities ++ a :: loaded, hnodup⟩
    have hall : collection.entities = start.entities ++ a :: loaded := rfl
    obtain ⟨next, hinsert, hnext⟩ := exists_insert_eq_ok hall
    have hentities : start.entities ++ a :: loaded = next.entities ++ loaded := by
      rw [hnext, List.append_assoc, List.singleton_append]
    rw [hentities] at hnodup hstop
    rw [place_cons] at hstop
    have hadded : Load.result (liftM (start.insert a)) = .ok next := hinsert
    rw [List.cons_append, loadFrom, Load.result_bind_of_ok (Entity.load_eq_ok_iff.mpr hfirst),
      Load.result_bind_of_ok hadded]
    exact ih ⟨loaded, hrest, hnodup, hstop⟩

end Collection

namespace Edge

variable {strictness : Strictness} {index : ℕ} {e : ModelError}

/-- Whether loading stops at an edge: those before it are loaded, each on its own, and it is not. -/
def StopsAt (strictness : Strictness) (index : ℕ) (earlier : List Document) (document : Document)
    (e : ModelError) : Prop :=
  (∃ loaded, List.Forall₂ (Loads strictness) earlier loaded) ∧
    (load strictness (index + earlier.length) document).result = .error e

/-- The edges fail at an edge, after all those before it have been loaded. -/
theorem stopsAt_of_loadFrom {documents : List Document}
    (h : (loadFrom strictness index documents).result = .error e) :
    ∃ earlier document later, documents = earlier ++ document :: later ∧
      StopsAt strictness index earlier document e := by
  induction documents generalizing index with
  | nil => cases h
  | cons document rest ih =>
    rw [loadFrom, Load.result_bind, bind_eq_error_iff] at h
    rcases h with h | ⟨edge, hedge, h⟩
    · exact ⟨[], document, rest, rfl, ⟨[], .nil⟩, h⟩
    · rw [Load.result_bind, bind_eq_error_iff] at h
      rcases h with h | ⟨edges, -, h⟩
      · obtain ⟨earlier, stop, later, rfl, ⟨loaded, hloaded⟩, hstop⟩ := ih h
        rw [← place_cons index document] at hstop
        exact ⟨document :: earlier, stop, later, rfl,
          ⟨edge :: loaded, .cons (load_eq_ok_iff.mp hedge) hloaded⟩, hstop⟩
      · cases h

theorem loadFrom_of_stopsAt {earlier : List Document} {document : Document}
    (h : StopsAt strictness index earlier document e) (later : List Document) :
    (loadFrom strictness index (earlier ++ document :: later)).result = .error e := by
  induction earlier generalizing index with
  | nil =>
    rw [List.nil_append, loadFrom, Load.result_bind, bind_eq_error_iff]
    exact Or.inl h.2
  | cons first earlier ih =>
    obtain ⟨⟨_, hloaded⟩, hstop⟩ := h
    obtain ⟨edge, loaded, hfirst, hrest, rfl⟩ := List.forall₂_cons_left_iff.mp hloaded
    rw [place_cons] at hstop
    rw [List.cons_append, loadFrom, Load.result_bind_of_ok (load_eq_ok_iff.mpr hfirst),
      Load.result_bind, bind_eq_error_iff]
    exact Or.inl (ih ⟨⟨loaded, hrest⟩, hstop⟩)

end Edge

namespace Model

variable {strictness : Strictness} {fields other : Fields} {sect : Section} {e : ModelError}

/-- The sections in the order in which they are loaded, the document itself first. -/
def order : List Section :=
  .model :: sections

/-- Whether a section can be loaded, whatever the others hold, and how it fails otherwise. -/
def sectionVerdict (strictness : Strictness) (fields : Fields) : Section → Except ModelError Unit
  | .model => (strictness.checkUnknown .model none (unknownKeys fields)).verdict
  | .timestepper => (loadTimestepper strictness fields).verdict
  | .nodes => (loadSection Node strictness fields true).verdict
  | .edges => (loadEdges strictness fields).verdict
  | .parameters => (loadSection Parameter strictness fields false).verdict
  | .recorders => (loadSection Recorder strictness fields false).verdict
  | .tables => (loadSection Table strictness fields false).verdict
  | .outputs => (loadSection Output strictness fields false).verdict

/-- A document is loaded as its sections are, one after the other. -/
theorem verdict_load (strictness : Strictness) (fields : Fields) :
    (load strictness (.mapping fields)).verdict =
      order.forM (sectionVerdict strictness fields) := by
  unfold load
  refine Load.verdict_bind fun _ => Load.verdict_bind fun timestepper => Load.verdict_bind
    fun nodes => Load.verdict_bind fun edges => Load.verdict_bind fun parameters =>
    Load.verdict_bind fun recorders => Load.verdict_bind fun tables => Load.verdict_bind
    fun outputs => rfl

/-- Loading fails at the first section, in the order of loading, whose own verdict is an error. -/
theorem load?_eq_error_iff :
    load? strictness (.mapping fields) = .error e ↔
      ∃ before sect after, order = before ++ sect :: after ∧
        (∀ s ∈ before, sectionVerdict strictness fields s = .ok ()) ∧
        sectionVerdict strictness fields sect = .error e := by
  rw [← forM_eq_error_iff, ← verdict_load, Load.verdict_eq_error_iff]
  rfl

/-- The verdict on a section is about this section. -/
theorem belongsTo_sectionVerdict (strictness : Strictness) (fields : Fields) (sect : Section) :
    BelongsTo sect (sectionVerdict strictness fields sect) := by
  cases sect with
  | model => exact (BelongsTo.checkUnknown strictness none (unknownKeys fields)).verdict
  | timestepper => exact (belongsTo_loadTimestepper strictness fields).verdict
  | nodes => exact (belongsTo_loadSection strictness fields true).verdict
  | edges => exact (belongsTo_loadEdges strictness fields).verdict
  | parameters => exact (belongsTo_loadSection strictness fields false).verdict
  | recorders => exact (belongsTo_loadSection strictness fields false).verdict
  | tables => exact (belongsTo_loadSection strictness fields false).verdict
  | outputs => exact (belongsTo_loadSection strictness fields false).verdict

theorem sectionItems_congr (hvalue : other.value? sect.key = fields.value? sect.key)
    (required : Bool) : sectionItems other sect required = sectionItems fields sect required := by
  unfold sectionItems
  rw [hvalue]

theorem loadSection_congr {α : Type} [Entity α] (strictness : Strictness) (required : Bool)
    (hvalue : other.value? (Entity.sect α).key = fields.value? (Entity.sect α).key) :
    loadSection α strictness other required = loadSection α strictness fields required := by
  unfold loadSection
  rw [sectionItems_congr hvalue]

/-- A section depends on nothing but its own value, and the document itself on its keys alone. -/
theorem sectionVerdict_congr (strictness : Strictness) (hkeys : other.keys = fields.keys)
    (hvalue : other.value? sect.key = fields.value? sect.key) :
    sectionVerdict strictness other sect = sectionVerdict strictness fields sect := by
  -- the section of the model asks which keys there are, any other for the value under its own
  cases sect with
  | model =>
    unfold sectionVerdict unknownKeys
    rw [hkeys]
  | timestepper =>
    unfold sectionVerdict loadTimestepper
    rw [hvalue]
  | edges =>
    unfold sectionVerdict loadEdges
    rw [sectionItems_congr hvalue]
  | nodes => exact congrArg Load.verdict (loadSection_congr strictness true hvalue)
  | parameters => exact congrArg Load.verdict (loadSection_congr strictness false hvalue)
  | recorders => exact congrArg Load.verdict (loadSection_congr strictness false hvalue)
  | tables => exact congrArg Load.verdict (loadSection_congr strictness false hvalue)
  | outputs => exact congrArg Load.verdict (loadSection_congr strictness false hvalue)

def sequences : List Section :=
  [.nodes, .edges, .parameters, .recorders, .tables, .outputs]

/-- Whether loading a section stops at an entry of it. -/
def StopsAt (strictness : Strictness) : Section → List Document → Document → ModelError → Prop
  | .nodes => Collection.StopsAt strictness (.empty : Collection Node) 0
  | .edges => Edge.StopsAt strictness 0
  | .parameters => Collection.StopsAt strictness (.empty : Collection Parameter) 0
  | .recorders => Collection.StopsAt strictness (.empty : Collection Recorder) 0
  | .tables => Collection.StopsAt strictness (.empty : Collection Table) 0
  | .outputs => Collection.StopsAt strictness (.empty : Collection Output) 0
  | _ => fun _ _ _ => False

theorem result_loadSection {α : Type} [Entity α] {items : List Document}
    (h : fields.value? (Entity.sect α).key = some (.sequence items)) (required : Bool) :
    (loadSection α strictness fields required).result =
      (Collection.loadFrom strictness (.empty : Collection α) 0 items).result := by
  have hitems : Load.result (liftM (sectionItems fields (Entity.sect α) required)) = .ok items :=
    sectionItems_eq_ok_iff.mpr (.inl h)
  exact Load.result_bind_of_ok hitems

theorem result_loadEdges {items : List Document}
    (h : fields.value? Section.edges.key = some (.sequence items)) :
    (loadEdges strictness fields).result = (Edge.loadFrom strictness 0 items).result := by
  have hitems : Load.result (liftM (sectionItems fields .edges false)) = .ok items :=
    sectionItems_eq_ok_iff.mpr (.inl h)
  exact Load.result_bind_of_ok hitems

section

variable {α : Type} [Entity α] {required : Bool}

/-- A section that is written as a sequence fails at one of its entries. -/
theorem stopsAt_of_loadSection {items : List Document}
    (hitems : fields.value? (Entity.sect α).key = some (.sequence items))
    (h : (loadSection α strictness fields required).verdict = .error e) :
    ∃ earlier document later, items = earlier ++ document :: later ∧
      Collection.StopsAt strictness (.empty : Collection α) 0 earlier document e := by
  rw [Load.verdict_eq_error_iff, result_loadSection hitems] at h
  exact Collection.stopsAt_of_loadFrom h

theorem loadSection_of_stopsAt {earlier later : List Document} {document : Document}
    (hitems : fields.value? (Entity.sect α).key = some (.sequence (earlier ++ document :: later)))
    (h : Collection.StopsAt strictness (.empty : Collection α) 0 earlier document e) :
    (loadSection α strictness fields required).verdict = .error e := by
  rw [Load.verdict_eq_error_iff, result_loadSection hitems]
  exact Collection.loadFrom_of_stopsAt h later

end

/-- A sequence that cannot be loaded stops at one of its entries. -/
theorem stopsAt_of_sectionVerdict (hsect : sect ∈ sequences) {items : List Document}
    (hitems : fields.value? sect.key = some (.sequence items))
    (h : sectionVerdict strictness fields sect = .error e) :
    ∃ earlier document later, items = earlier ++ document :: later ∧
      StopsAt strictness sect earlier document e := by
  cases sect with
  | model => exact absurd hsect (by decide)
  | timestepper => exact absurd hsect (by decide)
  | nodes => exact stopsAt_of_loadSection hitems h
  | edges =>
    rw [sectionVerdict, Load.verdict_eq_error_iff, result_loadEdges hitems] at h
    exact Edge.stopsAt_of_loadFrom h
  | parameters => exact stopsAt_of_loadSection hitems h
  | recorders => exact stopsAt_of_loadSection hitems h
  | tables => exact stopsAt_of_loadSection hitems h
  | outputs => exact stopsAt_of_loadSection hitems h

/-- The verdict on a section in which loading stops at an entry is the error of this entry. -/
theorem sectionVerdict_of_stopsAt {earlier later : List Document} {document : Document}
    (hitems : fields.value? sect.key = some (.sequence (earlier ++ document :: later)))
    (h : StopsAt strictness sect earlier document e) :
    sectionVerdict strictness fields sect = .error e := by
  cases sect with
  | model => cases h
  | timestepper => cases h
  | nodes => exact loadSection_of_stopsAt hitems h
  | edges =>
    rw [sectionVerdict, Load.verdict_eq_error_iff, result_loadEdges hitems]
    exact Edge.loadFrom_of_stopsAt h later
  | parameters => exact loadSection_of_stopsAt hitems h
  | recorders => exact loadSection_of_stopsAt hitems h
  | tables => exact loadSection_of_stopsAt hitems h
  | outputs => exact loadSection_of_stopsAt hitems h

/-- How an error comes about in a section, after some others. -/
structure FirstFailure (strictness : Strictness) (fields : Fields) (before : List Section)
    (sect : Section) (e : ModelError) : Prop where
  earlier : ∀ s ∈ before, sectionVerdict strictness fields s = .ok ()
  -- the sections before are passed, so this one is the first to fail
  fails : sectionVerdict strictness fields sect = .error e
  /-- What the later sections hold has no say. -/
  decides : ∀ other : Fields, other.keys = fields.keys →
    (∀ s ∈ before ++ [sect], other.value? s.key = fields.value? s.key) →
      load? strictness (.mapping other) = .error e
  /-- In a sequence, the later entries have no say either. -/
  stops : sect ∈ sequences → ∀ items, fields.value? sect.key = some (.sequence items) →
    ∃ earlier document later, items = earlier ++ document :: later ∧
      StopsAt strictness sect earlier document e ∧
      ∀ (other : Fields) (rest : List Document), other.keys = fields.keys →
        (∀ s ∈ before, other.value? s.key = fields.value? s.key) →
          other.value? sect.key = some (.sequence (earlier ++ document :: rest)) →
            load? strictness (.mapping other) = .error e

/-- Once the sections before one pass and this one fails, nothing that comes later in the document
has a say. -/
theorem firstFailure_of_split {before after : List Section}
    (hsplit : order = before ++ sect :: after)
    (hearlier : ∀ s ∈ before, sectionVerdict strictness fields s = .ok ())
    (hfails : sectionVerdict strictness fields sect = .error e) :
    FirstFailure strictness fields before sect e := by
  -- a document that agrees up to the section fails there, if the section fails in it
  have hother {other : Fields} (hkeys : other.keys = fields.keys)
      (hbefore : ∀ s ∈ before, other.value? s.key = fields.value? s.key)
      (hsect : sectionVerdict strictness other sect = .error e) :
      load? strictness (.mapping other) = .error e := by
    refine load?_eq_error_iff.mpr ⟨before, sect, after, hsplit, fun s hs => ?_, hsect⟩
    rw [sectionVerdict_congr strictness hkeys (hbefore s hs)]
    exact hearlier s hs
  constructor
  case earlier => exact hearlier
  case fails => exact hfails
  case decides =>
    intro other hkeys hsame
    obtain ⟨hbefore, hsect⟩ := List.forall_mem_append.mp hsame
    apply hother hkeys hbefore
    rw [sectionVerdict_congr strictness hkeys (hsect sect List.mem_cons_self)]
    exact hfails
  case stops =>
    intro hsequence items hitems
    obtain ⟨earlier, document, later, rfl, hstops⟩ :=
      stopsAt_of_sectionVerdict hsequence hitems hfails
    refine ⟨earlier, document, later, rfl, hstops, fun other rest hkeys hbefore hrest => ?_⟩
    exact hother hkeys hbefore (sectionVerdict_of_stopsAt hrest hstops)

/-- Loading fails in the first section that fails, with an error of that section, and nothing that
comes later in the document bears on it. -/
theorem first_failure_decides {document : Document} (h : load? strictness document = .error e) :
    ∃ before sect after, order = before ++ sect :: after ∧
      e.Attributed sect ∧ e.section? = some sect ∧
      ((∀ fields, document ≠ .mapping fields) ∧ sect = .model ∨
        ∃ fields, document = .mapping fields ∧ FirstFailure strictness fields before sect e) := by
  cases document with
  | mapping fields =>
    obtain ⟨before, sect, after, hsplit, hearlier, hfails⟩ := load?_eq_error_iff.mp h
    have hattributed : e.Attributed sect := belongsTo_sectionVerdict strictness fields sect e hfails
    exact ⟨before, sect, after, hsplit, hattributed, hattributed.section?_eq,
      Or.inr ⟨fields, rfl, firstFailure_of_split hsplit hearlier hfails⟩⟩
  | _ =>
    cases h
    refine ⟨[], .model, sections, rfl, .invalid none _, rfl,
      Or.inl ⟨fun fields hmapping => ?_, rfl⟩⟩
    cases hmapping

/-- A culvert in which a name is given twice. What follows cannot be loaded either. -/
def culvert : Document :=
  .mapping [
    ("timestepper", .mapping [("start", .text "2020-01-01"), ("end", .text "2020-01-31"),
      ("timestep", .number (.integer 1))]),
    ("nodes", .sequence [
      .mapping [("type", .text "Input"), ("name", .text "inlet")],
      .mapping [("type", .text "Output"), ("name", .text "inlet")],
      .null]),
    ("edges", .text "none")]

theorem first_failure_decides_culvert :
    load? .strict culvert = .error (.duplicateName .nodes "inlet") ∧
      ∃ fields before, culvert = .mapping fields ∧
        FirstFailure .strict fields before .nodes (.duplicateName .nodes "inlet") := by
  have hload : load? .strict culvert = .error (.duplicateName .nodes "inlet") := by rfl
  obtain ⟨before, sect, after, -, -, hsect, hfirst⟩ := first_failure_decides hload
  cases hsect
  rcases hfirst with ⟨hshape, -⟩ | ⟨fields, hfields, hfirst⟩
  · exact absurd rfl (hshape _)
  · exact ⟨hload, fields, before, hfields, hfirst⟩

end Model

end FlowPlan
