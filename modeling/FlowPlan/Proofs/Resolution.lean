import FlowPlan.Proofs.Diagnosis

namespace FlowPlan

namespace Resolution

variable {parameters : Collection Parameter} {context : SpecContext} {plan : Plan}

namespace Progress

variable {start : Plan} {all created pending : List Pending} {sofar : Resolution}

/-- When nothing that waits is ready, the parameters of the plan are those that can be created. -/
theorem hasParameter_iff (h : Progress parameters start all created sofar pending plan)
    (hall : Prepared parameters all) (hstart : start.parameters = [])
    (hstuck : ∀ p ∈ pending, ¬p.parameter.Ready (created.map Pending.name)) {name : String} :
    plan.hasParameter name = true ↔ Creatable parameters name := by
  rw [Plan.hasParameter_iff, h.parameterNames_eq hstart]
  constructor
  · intro hname
    obtain ⟨p, hp, rfl⟩ := List.mem_map.mp hname
    exact h.creatable p hp
  · exact h.mem_of_creatable hall hstuck

/-- When a round accepts nothing, the parameters that are left are exactly those that cannot be
created. -/
theorem mem_pending_iff (h : Progress parameters start all created sofar pending plan)
    (hall : Prepared parameters all) (hstart : start.parameters = [])
    (hstuck : ∀ p ∈ pending, ¬p.parameter.Ready (created.map Pending.name)) {p : Parameter} :
    p ∈ pending.map Pending.parameter ↔
      p ∈ parameters.entities ∧ ¬Creatable parameters p.name := by
  rw [h.pending_eq hall hstart, List.mem_filter, Bool.not_eq_true', ← Bool.not_eq_true,
    h.hasParameter_iff hall hstart hstuck]

theorem exists_created (h : Progress parameters start all created sofar [] plan)
    (hall : Prepared parameters all) :
    ∀ p ∈ parameters.entities, ∃ q ∈ created, q.parameter = p := by
  intro p hp
  obtain ⟨q, hq, rfl⟩ := hall.exists_pending hp
  exact ⟨q, (h.mem_or_mem hq).resolve_right List.not_mem_nil, rfl⟩

/-- When nothing is left, every parameter could be created. -/
theorem creatable_of_finished (h : Progress parameters start all created sofar [] plan)
    (hall : Prepared parameters all) :
    ∀ p ∈ parameters.entities, Creatable parameters p.name := by
  intro p hp
  obtain ⟨q, hq, rfl⟩ := h.exists_created hall p hp
  exact h.creatable q hq

/-- When nothing is left, the plan knew the nodes of every parameter from the start. -/
theorem knows_of_finished (h : Progress parameters start all created sofar [] plan)
    (hall : Prepared parameters all) : ∀ p ∈ parameters.entities, start.Knows p := by
  intro p hp
  obtain ⟨q, hq, rfl⟩ := h.exists_created hall p hp
  exact h.knows q hq

end Progress

/-- The diagnosis of a run that is stuck concerns what the plan lacks, and is right. -/
theorem Progress.diagnosed {start : Plan} {all created pending : List Pending}
    {sofar : Resolution} (h : Progress parameters start all created sofar pending plan)
    (hall : Prepared parameters all) (hstart : start.parameters = [])
    (hstuck : ∀ p ∈ pending, ¬p.parameter.Ready (created.map Pending.name)) :
    Diagnosed parameters (parameters.entities.filter fun p => !plan.hasParameter p.name)
      (diagnose parameters (pending.map Pending.parameter)) := by
  rw [← h.pending_eq hall hstart]
  refine diagnosed_diagnose ?_ (h.waits hall hstuck)
  rw [List.map_map]
  exact (List.nodup_append.mp (h.names_nodup hall)).2.1

/-- A resolution ends in one of three ways. It names a parameter that can be created but reads an
unknown node; or, when there is no such parameter, it creates all parameters; or it creates all that
can be created, and reports all others. -/
theorem resolve_outcome
    (hspecs : ∀ p ∈ parameters.entities, ∃ spec, p.spec context = .ok spec)
    (hnew : plan.parameters = []) :
    ∃ result final, Build.outcome (resolve Plan.engine context parameters) plan = (result, final) ∧
      (∀ name, final.hasParameter name = true → Creatable parameters name) ∧
      ((∃ p ∈ parameters.entities, Creatable parameters p.name ∧ ¬plan.Knows p) →
        ∃ p ∈ parameters.entities, Creatable parameters p.name ∧
          ∃ node ∈ p.nodeReferences, plan.nodeKind? node = none ∧
            result = .error (.engine .parameters p.name (.unknownNode node))) ∧
      ((∀ p ∈ parameters.entities, Creatable parameters p.name → plan.Knows p) →
        (∀ p ∈ parameters.entities, Creatable parameters p.name) →
          (∃ resolution, result = .ok resolution) ∧
            ∀ p ∈ parameters.entities, final.hasParameter p.name = true) ∧
      ((∀ p ∈ parameters.entities, Creatable parameters p.name → plan.Knows p) →
        (∃ p ∈ parameters.entities, ¬Creatable parameters p.name) →
          (∃ e names, result = .error e ∧ e.unresolved? = some names ∧ names.Nodup ∧
            ∀ name, name ∈ names ↔
              parameters.contains name = true ∧ ¬Creatable parameters name) ∧
            ∀ name, final.hasParameter name = true ↔ Creatable parameters name) := by
  obtain ⟨all, hall⟩ := exists_specs_iff.mpr hspecs
  have hprepared := prepared_of_specs hall
  have hsettled := settled_resolve hall hnew
  -- each end of a run answers one of the three cases and excludes the others
  generalize Build.outcome (resolve Plan.engine context parameters) plan = outcome at hsettled ⊢
  cases hsettled with
  | @finished created sofar final progress =>
    have hcreated (name : String) : final.hasParameter name = true ↔ Creatable parameters name :=
      progress.hasParameter_iff hprepared hnew (by simp)
    have hcreatable := progress.creatable_of_finished hprepared
    refine ⟨_, _, rfl, fun name => (hcreated name).mp, ?_, ?_, ?_⟩
    · rintro ⟨p, hp, -, hunknown⟩
      exact absurd (progress.knows_of_finished hprepared p hp) hunknown
    · intro _ _
      exact ⟨⟨_, rfl⟩, fun p hp => (hcreated p.name).mpr (hcreatable p hp)⟩
    · rintro - ⟨p, hp, hnot⟩
      exact absurd (hcreatable p hp) hnot
  | @stuck created sofar pending final progress waiting short =>
    have hcreated (name : String) : final.hasParameter name = true ↔ Creatable parameters name :=
      progress.hasParameter_iff hprepared hnew short
    have hpending (p : Parameter) : p ∈ pending.map Pending.parameter ↔
        p ∈ parameters.entities ∧ ¬Creatable parameters p.name :=
      progress.mem_pending_iff hprepared hnew short
    refine ⟨_, _, rfl, fun name => (hcreated name).mp, ?_, ?_, ?_⟩
    -- a parameter that can be created was created, so its nodes are known
    · rintro ⟨p, hp, hcreatable, hunknown⟩
      have hmem := (hcreated p.name).mpr hcreatable
      rw [Plan.hasParameter_iff, progress.parameterNames_eq hnew] at hmem
      obtain ⟨q, hq, hname⟩ := List.mem_map.mp hmem
      have hsame : q.parameter = p := Collection.eq_of_name_eq
        (hprepared.mem_entities (progress.mem_all_of_created hq)) hp hname
      exact absurd (hsame ▸ progress.knows q hq) hunknown
    · intro _ hcreatable
      obtain ⟨q, hq⟩ := List.exists_mem_of_ne_nil pending waiting
      obtain ⟨hmem, hnot⟩ := (hpending q.parameter).mp (List.mem_map_of_mem hq)
      exact absurd (hcreatable q.parameter hmem) hnot
    · rintro - -
      obtain ⟨names, hnames, hperm⟩ :=
        (progress.diagnosed hprepared hnew short).unresolved_perm
      rw [← progress.pending_eq hprepared hnew] at hperm
      refine ⟨⟨_, names, rfl, hnames, ?_, fun name => ?_⟩, hcreated⟩
      · rw [hperm.nodup_iff, List.map_map]
        exact (List.nodup_append.mp (progress.names_nodup hprepared)).2.1
      · rw [hperm.mem_iff, List.mem_map, Collection.contains_iff]
        constructor
        · rintro ⟨p, hp, rfl⟩
          obtain ⟨hmem, hnot⟩ := (hpending p).mp hp
          exact ⟨⟨p, hmem, rfl⟩, hnot⟩
        · rintro ⟨⟨p, hmem, rfl⟩, hnot⟩
          exact ⟨p, (hpending p).mpr ⟨hmem, hnot⟩, rfl⟩
  | @refused created p node creatable declared reached reads unknown =>
    have hmem := hprepared.mem_entities declared
    have hunknown : ¬plan.Knows p.parameter :=
      fun hknows => Plan.knows_iff.mp hknows node reads unknown
    refine ⟨_, _, rfl, fun name hname => ?_, fun _ => ?_, ?_, ?_⟩
    · rw [Plan.hasParameter_iff, parameterNames_addAll_requests, Plan.parameterNames, hnew,
        List.map_nil, List.nil_append] at hname
      obtain ⟨q, hq, rfl⟩ := List.mem_map.mp hname
      exact creatable q hq
    · exact ⟨p.parameter, hmem, reached, node, reads, unknown, rfl⟩
    · intro hknown _
      exact absurd (hknown p.parameter hmem reached) hunknown
    · intro hknown _
      exact absurd (hknown p.parameter hmem reached) hunknown

def opposite (name other : String) : Parameter :=
  .negative { name, comment := none, parameter := .parameter other }

theorem names_opposite {name other read : String} (h : (opposite name other).Names read) :
    read = other := by
  cases h with
  | negated h => exact (Quantity.parameter.inj h).symm

def rain (url table : Option String) : Parameter :=
  .dataFrame { name := "rain", comment := none, url, table, column := "mm" }

/-- One parameter that can be created, two that lead to an undeclared name, and three that lead into
a circle. -/
def tangle : Collection Parameter where
  entities := [opposite "b" "a", opposite "c" "d", opposite "a" "ghost", opposite "e" "c",
    rain (some "rain.csv") none, opposite "d" "c"]
  nodup := by decide

theorem resolve_outcome_tangle :
    ∃ e names final,
      Build.outcome (resolve Plan.engine { tables := .empty, basePath := none } tangle)
        (Plan.new []) = (.error e, final) ∧
      e.unresolved? = some names ∧
      (∀ name, name ∈ names ↔ tangle.contains name = true ∧ ¬Creatable tangle name) ∧
      ∀ name, final.hasParameter name = true ↔ Creatable tangle name := by
  have hspecs : ∀ p ∈ tangle.entities, ∃ spec,
      p.spec { tables := .empty, basePath := none } = .ok spec := by
    simp only [tangle, List.forall_mem_cons]
    exact ⟨⟨_, rfl⟩, ⟨_, rfl⟩, ⟨_, rfl⟩, ⟨_, rfl⟩, ⟨_, rfl⟩, ⟨_, rfl⟩, by simp⟩
  have hknown : ∀ p ∈ tangle.entities, Creatable tangle p.name → (Plan.new []).Knows p := by
    have hnodes : ∀ p ∈ tangle.entities, p.nodeReferences = [] := by decide
    intro p hp _
    rw [Plan.knows_iff, hnodes p hp]
    exact List.forall_mem_nil _
  have hghost : ∃ p ∈ tangle.entities, ¬Creatable tangle p.name := by
    have hmem : opposite "a" "ghost" ∈ tangle.entities := by simp [tangle]
    refine ⟨opposite "a" "ghost", hmem, fun h => ?_⟩
    have hreads := (Creatable.iff_of_mem hmem).mp h
    obtain ⟨q, hq, hname, -⟩ := (hreads "ghost" (by decide)).declared_of
    exact absurd (Collection.contains_iff.mpr ⟨q, hq, hname⟩) (by decide)
  have hnew : (Plan.new []).parameters = [] := rfl
  obtain ⟨result, final, houtcome, -, -, -, hstuck⟩ := resolve_outcome hspecs hnew
  obtain ⟨⟨e, names, rfl, hnames, -, hmem⟩, hcreated⟩ := hstuck hknown hghost
  exact ⟨e, names, final, houtcome, hnames, hmem, hcreated⟩

theorem unresolved?_of_specs_error {e : ModelError} (h : specs context parameters = .error e) :
    e.unresolved? = none := by
  obtain ⟨p, -, hspec⟩ := exists_spec_error_of_specs_error h
  rcases error_of_spec hspec with ⟨sect, name, rfl⟩ | ⟨sect, name, details, rfl⟩
  · rfl
  · rfl

/-- When a resolution ends stuck, its error tells exactly why what was not created was not. -/
theorem resolve_diagnosed {e : ModelError} {names : List String} {final : Plan}
    (hnew : plan.parameters = [])
    (hend : Build.outcome (resolve Plan.engine context parameters) plan = (.error e, final))
    (hstuck : e.unresolved? = some names) :
    Diagnosed parameters (parameters.entities.filter fun p => !final.hasParameter p.name) e := by
  -- an error that names parameters is no error of a spec, so it comes from the rounds
  cases hspecs : specs context parameters with
  | error e' =>
    rw [outcome_resolve_of_specs_error hspecs] at hend
    cases hend
    rw [unresolved?_of_specs_error hspecs] at hstuck
    cases hstuck
  | ok all =>
    have hsettled := settled_resolve hspecs hnew
    rw [hend] at hsettled
    cases hsettled with
    | stuck progress _ short => exact progress.diagnosed (prepared_of_specs hspecs) hnew short
    | refused => cases hstuck

theorem resolve_diagnosed_tangle :
    ∃ e final,
      Build.outcome (resolve Plan.engine { tables := .empty, basePath := none } tangle)
        (Plan.new []) = (.error e, final) ∧
      e.unresolved? = some ["b", "a", "c", "e", "d"] ∧
      Diagnosed tangle (tangle.entities.filter fun p => !final.hasParameter p.name) e := by
  have hnames : (match (Build.outcome (resolve Plan.engine { tables := .empty, basePath := none }
      tangle) (Plan.new [])).1 with
      | .error e => e.unresolved?
      | .ok _ => none) = some ["b", "a", "c", "e", "d"] := by decide +kernel
  cases hend : Build.outcome (resolve Plan.engine { tables := .empty, basePath := none } tangle)
    (Plan.new []) with
  | mk result final =>
    rw [hend] at hnames
    cases result with
    | error e => exact ⟨e, final, rfl, hnames, resolve_diagnosed rfl hend hnames⟩
    | ok resolution => cases hnames

/-- A resolution succeeds when the specifications can be built, references lead to declared
parameters and nowhere in circles, and all nodes that are read are known. -/
theorem resolve_succeeds_iff (hnew : plan.parameters = []) :
    (∃ resolution final,
      Build.outcome (resolve Plan.engine context parameters) plan = (.ok resolution, final)) ↔
      (∀ p ∈ parameters.entities, ∃ spec, p.spec context = .ok spec) ∧
      Closed parameters ∧ Acyclic parameters ∧ ∀ p ∈ parameters.entities, plan.Knows p := by
  rw [← exists_specs_iff, ← and_assoc (a := Closed parameters), ← Creatable.forall_iff]
  constructor
  · rintro ⟨resolution, final, hend⟩
    -- without all specs, resolution fails before the first round
    cases hspecs : specs context parameters with
    | error e =>
      rw [outcome_resolve_of_specs_error hspecs] at hend
      cases hend
    | ok all =>
      have hall := prepared_of_specs hspecs
      have hsettled := settled_resolve hspecs hnew
      rw [hend] at hsettled
      cases hsettled with
      | finished progress =>
        exact ⟨⟨all, rfl⟩, progress.creatable_of_finished hall, progress.knows_of_finished hall⟩
  · rintro ⟨⟨all, hspecs⟩, hcreatable, hknown⟩
    have hall := prepared_of_specs hspecs
    have hsettled := settled_resolve hspecs hnew
    generalize Build.outcome (resolve Plan.engine context parameters) plan = outcome at hsettled ⊢
    -- it cannot fail: all that is pending could be created, and all nodes are known
    cases hsettled with
    | finished progress => exact ⟨_, _, rfl⟩
    | stuck progress waiting short =>
      obtain ⟨q, hq⟩ := List.exists_mem_of_ne_nil _ waiting
      have hnot := (progress.mem_pending_iff hall hnew short).mp (List.mem_map_of_mem hq)
      exact absurd (hcreatable q.parameter hnot.1) hnot.2
    | refused _ declared _ reads unknown =>
      have hknows := Plan.knows_iff.mp (hknown _ (hall.mem_entities declared))
      exact absurd unknown (hknows _ reads)

/-- A resolution that succeeds adds the parameters of the collection to the plan, and nothing
else. -/
theorem plan_of_resolve_ok (hnew : plan.parameters = []) {resolution : Resolution} {final : Plan}
    (hend : Build.outcome (resolve Plan.engine context parameters) plan = (.ok resolution, final)) :
    final.nodes = plan.nodes ∧ final.recorders = plan.recorders ∧ final.outputs = plan.outputs ∧
      ∀ name, name ∈ final.parameterNames ↔ parameters.contains name = true := by
  obtain ⟨hspecs, -⟩ := (resolve_succeeds_iff hnew).mp ⟨resolution, final, hend⟩
  obtain ⟨all, hspecs⟩ := exists_specs_iff.mpr hspecs
  have hall := prepared_of_specs hspecs
  have hsettled := settled_resolve hspecs hnew
  rw [hend] at hsettled
  cases hsettled with
  | @finished created _ _ progress =>
    -- parameters are no nodes, recorders or outputs
    have hrest : ∀ request ∈ created.map Pending.request,
        request.node? = none ∧ request.recorder? = none ∧ request.output? = none :=
      List.forall_mem_map.mpr fun _ _ => ⟨rfl, rfl, rfl⟩
    refine ⟨?_, ?_, ?_, fun name => ?_⟩
    · rw [progress.plan_eq, Plan.nodes_addAll,
        List.filterMap_eq_nil_iff.mpr fun r hr => (hrest r hr).1, List.append_nil]
    · rw [progress.plan_eq, Plan.recorders_addAll,
        List.filterMap_eq_nil_iff.mpr fun r hr => (hrest r hr).2.1, List.append_nil]
    · rw [progress.plan_eq, Plan.outputs_addAll,
        List.filterMap_eq_nil_iff.mpr fun r hr => (hrest r hr).2.2, List.append_nil]
    · rw [progress.parameterNames_eq hnew, List.mem_map, Collection.contains_iff]
      constructor
      · rintro ⟨q, hq, rfl⟩
        exact ⟨q.parameter, hall.mem_entities (progress.mem_all_of_created hq), rfl⟩
      · rintro ⟨p, hp, rfl⟩
        obtain ⟨q, hq, rfl⟩ := progress.exists_created hall p hp
        exact ⟨q, hq, rfl⟩

end Resolution

end FlowPlan
