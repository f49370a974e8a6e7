import FlowPlan.Proofs.Resolution

/-! Which parameters an error calls cyclic: those whose references lead into a cycle, and not to an
undeclared name. A parameter that only reads one of a cycle is called so as well. -/

namespace FlowPlan

/-- Whether references among some parameters lead from a name into a cycle. -/
def LeadsIntoCycle (among : List Parameter) (name : String) : Prop :=
  ∃ turn, Relation.ReflTransGen (Reads among) name turn ∧ Relation.TransGen (Reads among) turn turn

/-- More parameters offer no fewer ways into a cycle. -/
theorem LeadsIntoCycle.mono {few many : List Parameter} (hsub : few ⊆ many) {name : String}
    (h : LeadsIntoCycle few name) : LeadsIntoCycle many name := by
  obtain ⟨turn, hpath, hcycle⟩ := h
  exact ⟨turn, Relation.ReflTransGen.mono (reads_mono hsub) _ _ hpath,
    Relation.TransGen.mono (reads_mono hsub) _ _ hcycle⟩

/-- What leads into a cycle reads something, so it is declared. -/
theorem LeadsIntoCycle.declared {among : List Parameter} {name : String}
    (h : LeadsIntoCycle among name) : ∃ p ∈ among, p.name = name := by
  obtain ⟨turn, hpath, hcycle⟩ := h
  obtain ⟨read, ⟨p, hp, hname, -⟩, -⟩ :=
    Relation.TransGen.head'_iff.mp (Relation.TransGen.trans_right hpath hcycle)
  exact ⟨p, hp, hname⟩

theorem LeadsAstray.mono {parameters : Collection Parameter} {few many : List Parameter}
    (hsub : few ⊆ many) {name : String} (h : LeadsAstray parameters few name) :
    LeadsAstray parameters many name := by
  obtain ⟨missing, hpath, hnot⟩ := h
  exact ⟨missing, Relation.TransGen.mono (reads_mono hsub) _ _ hpath, hnot⟩

/-- What can be created leads into no cycle. -/
theorem Creatable.not_leadsIntoCycle {parameters : Collection Parameter} {name : String}
    (h : Creatable parameters name) : ¬LeadsIntoCycle parameters.entities name := by
  rintro ⟨turn, hpath, hcycle⟩
  exact (h.of_path hpath).not_cycle hcycle

namespace Resolution

variable {parameters : Collection Parameter} {stuck : List Parameter}

/-- References that lead to something that cannot be created pass through such parameters only. -/
theorem path_of_not_creatable
    (hstuck : ∀ p, p ∈ stuck ↔ p ∈ parameters.entities ∧ ¬Creatable parameters p.name)
    {name last : String} (hpath : Relation.TransGen (Reads parameters.entities) name last)
    (hlast : ¬Creatable parameters last) : Relation.TransGen (Reads stuck) name last := by
  -- whoever reads on the way is stuck, since what it reads leads to the end of the path
  have hreader {reader read : String} (hreads : Reads parameters.entities reader read)
      (hrest : Relation.ReflTransGen (Reads parameters.entities) read last) :
      Reads stuck reader read := by
    obtain ⟨p, hp, rfl, hread⟩ := hreads
    have hstays : ¬Creatable parameters p.name := by
      intro hcreatable
      have hnext : Creatable parameters read := hcreatable.of_reads ⟨p, hp, rfl, hread⟩
      exact hlast (hnext.of_path hrest)
    exact ⟨p, (hstuck p).mpr ⟨hp, hstays⟩, rfl, hread⟩
  induction hpath using Relation.TransGen.head_induction_on with
  | single hreads => exact Relation.TransGen.single (hreader hreads Relation.ReflTransGen.refl)
  | head hreads hrest ih => exact Relation.TransGen.head (hreader hreads hrest.to_reflTransGen) ih

/-- Who leads to an undeclared name does so among the parameters that are stuck: all on the way
there are stuck as well. -/
theorem leadsAstray_stuck_iff
    (hstuck : ∀ p, p ∈ stuck ↔ p ∈ parameters.entities ∧ ¬Creatable parameters p.name)
    {name : String} :
    LeadsAstray parameters stuck name ↔ LeadsAstray parameters parameters.entities name := by
  constructor
  · exact LeadsAstray.mono fun p hp => ((hstuck p).mp hp).1
  · rintro ⟨missing, hpath, hnot⟩
    refine ⟨missing, path_of_not_creatable hstuck hpath fun hcreatable => ?_, hnot⟩
    obtain ⟨p, hp, hname, -⟩ := hcreatable.declared_of
    rw [Collection.contains_iff.mpr ⟨p, hp, hname⟩] at hnot
    cases hnot

/-- An error that is right about the parameters that cannot be created calls those cyclic that lead
into a cycle, and not to an undeclared name. -/
theorem mem_cyclic_iff {dependent missing cyclic : List String}
    (hstuck : ∀ p, p ∈ stuck ↔ p ∈ parameters.entities ∧ ¬Creatable parameters p.name)
    (h : Diagnosed parameters stuck (.unresolvedReference dependent missing cyclic))
    {name : String} :
    name ∈ cyclic ↔
      LeadsIntoCycle parameters.entities name ∧
        ¬LeadsAstray parameters parameters.entities name := by
  -- leading astray among the stuck parameters is leading astray among all
  rw [← leadsAstray_stuck_iff hstuck]
  cases h with
  | @astray dependent cyclic _ _ hsublist hcomplete hdisjoint hdependent hcircles =>
    rw [List.mem_map]
    constructor
    · rintro ⟨p, hp, rfl⟩
      have hstraight : ¬LeadsAstray parameters stuck p.name := by
        intro hastray
        exact hdisjoint ((hdependent p (hsublist.subset hp)).mpr hastray) hp
      have hsub : cyclic ⊆ parameters.entities := by
        intro q hq
        exact ((hstuck q).mp (hsublist.subset hq)).1
      exact ⟨LeadsIntoCycle.mono hsub (hcircles p hp), hstraight⟩
    · rintro ⟨hcycle, hstraight⟩
      obtain ⟨p, hp, rfl⟩ := hcycle.declared
      -- what leads into a cycle cannot be created, and so it is stuck
      have hmem : p ∈ stuck :=
        (hstuck p).mpr ⟨hp, fun hcreatable => hcreatable.not_leadsIntoCycle hcycle⟩
      have hnot : p ∉ dependent := fun hp => hstraight ((hdependent p hmem).mp hp)
      exact ⟨p, (List.mem_append.mp (hcomplete.mem_iff.mpr hmem)).resolve_left hnot, rfl⟩

/-- When a resolution ends stuck, its error is right about the parameters that cannot be created. -/
theorem exists_diagnosed {context : SpecContext} {plan final : Plan} {e : ModelError}
    {names : List String} (hnew : plan.parameters = [])
    (hend : Build.outcome (resolve Plan.engine context parameters) plan = (.error e, final))
    (hunresolved : e.unresolved? = some names) :
    ∃ stuck, (∀ p, p ∈ stuck ↔ p ∈ parameters.entities ∧ ¬Creatable parameters p.name) ∧
      Diagnosed parameters stuck e := by
  -- only a round without progress says what is unresolved, and there is none before the specs
  cases hspecs : specs context parameters with
  | error e' =>
    rw [outcome_resolve_of_specs_error hspecs] at hend
    cases hend
    rw [unresolved?_of_specs_error hspecs] at hunresolved
    cases hunresolved
  | ok all =>
    have hall := prepared_of_specs hspecs
    have hsettled := settled_resolve hspecs hnew
    rw [hend] at hsettled
    cases hsettled with
    | stuck progress _ short =>
      refine ⟨_, fun p => ?_, progress.diagnosed hall hnew short⟩
      rw [← progress.pending_eq hall hnew]
      exact progress.mem_pending_iff hall hnew short
    | refused => cases hunresolved

/-- What an error calls cyclic lies on cycles exactly when nothing else reads what lies on them,
apart from what leads to undeclared names. -/
theorem forall_cyclic_iff {among : List Parameter} {cyclic : List String}
    (hcyclic : ∀ name, name ∈ cyclic ↔
      LeadsIntoCycle among name ∧ ¬LeadsAstray parameters among name) :
    (∀ name ∈ cyclic, Relation.TransGen (Reads among) name name) ↔
      ∀ reader read, Reads among reader read → Relation.TransGen (Reads among) read read →
        ¬LeadsAstray parameters among reader →
        Relation.TransGen (Reads among) reader reader := by
  constructor
  · intro hturns reader read hreads hturn hstraight
    have hleads : LeadsIntoCycle among reader :=
      ⟨read, Relation.ReflTransGen.single hreads, hturn⟩
    exact hturns reader ((hcyclic reader).mpr ⟨hleads, hstraight⟩)
  · intro hclosed name hname
    obtain ⟨⟨turn, hpath, hturn⟩, hstraight⟩ := (hcyclic name).mp hname
    -- from the cycle back along the path, each reader is on a cycle in its turn
    induction hpath using Relation.ReflTransGen.head_induction_on with
    | refl => exact hturn
    | @head reader read hreads hrest ih =>
      have hread : ¬LeadsAstray parameters among read :=
        fun hastray => hstraight (hastray.of_reads hreads)
      have hleads : LeadsIntoCycle among read := ⟨turn, hrest, hturn⟩
      exact hclosed reader read hreads (ih ((hcyclic read).mpr ⟨hleads, hread⟩) hread) hstraight

/-- Which parameters a resolution calls cyclic. They need not read themselves in the end: one that
only reads a parameter of a cycle is called so, and they all do when there is no such reader. -/
theorem resolve_names_cyclic {context : SpecContext} {plan final : Plan}
    {dependent missing cyclic : List String} (hnew : plan.parameters = [])
    (hend : Build.outcome (resolve Plan.engine context parameters) plan =
      (.error (.unresolvedReference dependent missing cyclic), final)) :
    (∀ name, name ∈ cyclic ↔
      LeadsIntoCycle parameters.entities name ∧
        ¬LeadsAstray parameters parameters.entities name) ∧
      ((∀ name ∈ cyclic, Relation.TransGen (Reads parameters.entities) name name) ↔
        ∀ reader read, Reads parameters.entities reader read →
          Relation.TransGen (Reads parameters.entities) read read →
          ¬LeadsAstray parameters parameters.entities reader →
          Relation.TransGen (Reads parameters.entities) reader reader) := by
  -- the parameters that are left are those that cannot be created, which settles the first half
  obtain ⟨stuck, hstuck, hdiagnosed⟩ := exists_diagnosed hnew hend rfl
  have hcyclic (name : String) : name ∈ cyclic ↔
      LeadsIntoCycle parameters.entities name ∧
        ¬LeadsAstray parameters parameters.entities name :=
    mem_cyclic_iff hstuck hdiagnosed
  exact ⟨hcyclic, forall_cyclic_iff hcyclic⟩

theorem outcome_resolve_tangle :
    ∃ final, Build.outcome (resolve Plan.engine { tables := .empty, basePath := none } tangle)
      (Plan.new []) =
        (.error (.unresolvedReference ["b", "a"] ["ghost"] ["c", "e", "d"]), final) := by
  refine ⟨_, Prod.ext ?_ rfl⟩
  with_unfolding_all rfl

theorem resolve_names_cyclic_tangle :
    ∃ final, Build.outcome (resolve Plan.engine { tables := .empty, basePath := none } tangle)
        (Plan.new []) =
          (.error (.unresolvedReference ["b", "a"] ["ghost"] ["c", "e", "d"]), final) ∧
      ∀ name, name ∈ ["c", "e", "d"] ↔
        LeadsIntoCycle tangle.entities name ∧ ¬LeadsAstray tangle tangle.entities name := by
  have hnew : (Plan.new []).parameters = [] := rfl
  obtain ⟨final, hend⟩ := outcome_resolve_tangle
  obtain ⟨hcyclic, -⟩ := resolve_names_cyclic hnew hend
  exact ⟨final, hend, hcyclic⟩

/-- A parameter that nothing reads is called cyclic. -/
theorem names_reader_of_cycle :
    ∃ dependent missing cyclic final,
      Build.outcome (resolve Plan.engine { tables := .empty, basePath := none } tangle)
        (Plan.new []) = (.error (.unresolvedReference dependent missing cyclic), final) ∧
      "e" ∈ cyclic ∧ ¬Relation.TransGen (Reads tangle.entities) "e" "e" := by
  obtain ⟨final, hend⟩ := outcome_resolve_tangle
  refine ⟨_, _, _, final, hend, by decide, fun hcycle => ?_⟩
  have hunread : ∀ p ∈ tangle.entities, "e" ∉ p.parameterReferences := by decide
  obtain ⟨_, -, hlast⟩ := Relation.TransGen.tail'_iff.mp hcycle
  obtain ⟨p, hp, -, hread⟩ := reads_iff.mp hlast
  exact hunread p hp hread

end Resolution

end FlowPlan
