import FlowPlan.Proofs.Rounds

namespace FlowPlan

namespace Resolution

section

variable (plan : Plan) (created : List Pending)

theorem filterMap_node?_requests : (created.map Pending.request).filterMap Request.node? = [] := by
  rw [List.filterMap_map]
  exact List.filterMap_eq_nil_iff.mpr fun _ _ => rfl

@[simp] theorem nodeKind?_addAll_requests :
    (plan.addAll (created.map Pending.request)).nodeKind? = plan.nodeKind? := by
  funext node
  unfold Plan.nodeKind?
  rw [Plan.nodes_addAll, filterMap_node?_requests, List.append_nil]

@[simp] theorem parameterNames_addAll_requests :
    (plan.addAll (created.map Pending.request)).parameterNames =
      plan.parameterNames ++ created.map Pending.name := by
  have hdeclared : (created.map Pending.request).filterMap Request.parameter? =
      created.map fun p => (p.name, p.parameter.typeName) := by
    rw [List.filterMap_map, ← List.filterMap_eq_map]
    rfl
  unfold Plan.parameterNames
  rw [Plan.parameters_addAll, hdeclared, List.map_append, List.map_map]
  rfl

end

/-- What holds between two rounds: the parameters in `created` exist, those in `pending` wait, and
these are all there are. -/
structure Progress (parameters : Collection Parameter) (start : Plan) (all created : List Pending)
    (sofar : Resolution) (pending : List Pending) (plan : Plan) : Prop where
  plan_eq : plan = start.addAll (created.map Pending.request)
  order_eq : sofar.order = created.map Pending.name
  perm : (created ++ pending).Perm all
  sublist : pending.Sublist all
  creatable : ∀ p ∈ created, Creatable parameters p.name
  knows : ∀ p ∈ created, start.Knows p.parameter

variable {parameters : Collection Parameter} {start : Plan} {all created : List Pending}
  {sofar : Resolution} {pending : List Pending} {plan : Plan}

namespace Progress

/-- Before the first round nothing is created and everything is pending. -/
theorem initial : Progress parameters start all [] { rounds := 0, order := [] } all start where
  plan_eq := rfl
  order_eq := rfl
  perm := List.Perm.refl _
  sublist := List.Sublist.refl _
  creatable := by simp
  knows := by simp

/-- Rounds create no nodes. -/
theorem nodeKind?_eq (h : Progress parameters start all created sofar pending plan) :
    plan.nodeKind? = start.nodeKind? := by
  rw [h.plan_eq, nodeKind?_addAll_requests]

theorem knows_iff (h : Progress parameters start all created sofar pending plan) (p : Parameter) :
    plan.Knows p ↔ start.Knows p := by
  unfold Plan.Knows
  rw [h.nodeKind?_eq]

theorem parameterNames_eq (h : Progress parameters start all created sofar pending plan)
    (hstart : start.parameters = []) : plan.parameterNames = created.map Pending.name := by
  rw [h.plan_eq, parameterNames_addAll_requests, Plan.parameterNames, hstart]
  rfl

/-- No parameter is created twice, or created and pending. -/
theorem names_nodup (h : Progress parameters start all created sofar pending plan)
    (hall : Prepared parameters all) :
    (created.map Pending.name ++ pending.map Pending.name).Nodup := by
  rw [← List.map_append]
  exact (h.perm.map Pending.name).nodup_iff.mpr hall.nodup

theorem mem_or_mem (h : Progress parameters start all created sofar pending plan) {p : Pending}
    (hp : p ∈ all) : p ∈ created ∨ p ∈ pending :=
  List.mem_append.mp (h.perm.mem_iff.mpr hp)

theorem mem_all_of_created (h : Progress parameters start all created sofar pending plan)
    {p : Pending} (hp : p ∈ created) : p ∈ all :=
  h.perm.mem_iff.mp (List.mem_append_left _ hp)

/-- What a round accepts can be created: it reads only what could be. -/
theorem creatable_of_accepted (h : Progress parameters start all created sofar pending plan)
    (hall : Prepared parameters all) (hstart : start.parameters = []) :
    ∀ p ∈ accepted plan.parameterNames pending, Creatable parameters p.name := by
  -- by the order of creation: a parameter may read one created before it in the same round
  refine forall_mem_of_forall_before fun before p after hsplit hbefore => ?_
  have hmem : p ∈ all := by
    have hp : p ∈ accepted plan.parameterNames pending := by
      rw [hsplit]
      simp
    have hpending := (accepted_append_refused_perm plan.parameterNames pending).mem_iff.mp
      (List.mem_append_left _ hp)
    exact h.sublist.mem hpending
  refine (Creatable.iff_of_mem (hall.mem_entities hmem)).mpr fun name hname => ?_
  have hready := ready_of_accepted hsplit name hname
  rw [h.parameterNames_eq hstart, ← List.map_append] at hready
  obtain ⟨q, hq, rfl⟩ := List.mem_map.mp hready
  rcases List.mem_append.mp hq with hq | hq
  · exact h.creatable q hq
  · exact hbefore q hq

/-- A round that meets no unknown node takes one such state to the next. -/
theorem next (h : Progress parameters start all created sofar pending plan)
    (hall : Prepared parameters all) (hstart : start.parameters = [])
    (hknows : ∀ p ∈ accepted plan.parameterNames pending, plan.Knows p.parameter) :
    Progress parameters start all (created ++ accepted plan.parameterNames pending)
      { rounds := sofar.rounds + 1
        order := sofar.order ++ (accepted plan.parameterNames pending).map Pending.name }
      (refused plan.parameterNames pending)
      (plan.addAll ((accepted plan.parameterNames pending).map Pending.request)) where
  plan_eq := by rw [List.map_append, Plan.addAll_append, ← h.plan_eq]
  order_eq := by rw [List.map_append, h.order_eq]
  perm := by
    rw [List.append_assoc]
    exact ((accepted_append_refused_perm _ _).append_left created).trans h.perm
  sublist := (refused_sublist _ _).trans h.sublist
  creatable := List.forall_mem_append.mpr ⟨h.creatable, h.creatable_of_accepted hall hstart⟩
  knows := List.forall_mem_append.mpr ⟨h.knows, fun p hp => (h.knows_iff _).mp (hknows p hp)⟩

/-- A round creates the parameters that are ready, in their order, unless one of them reads an
unknown node. -/
theorem outcome_offer (h : Progress parameters start all created sofar pending plan)
    (hall : Prepared parameters all) (hstart : start.parameters = []) :
    ((∀ p ∈ accepted plan.parameterNames pending, plan.Knows p.parameter) ∧
      Build.outcome (offer Plan.engine pending) plan =
        (.ok
          { deferred := refused plan.parameterNames pending
            created := (accepted plan.parameterNames pending).map Pending.name },
          plan.addAll ((accepted plan.parameterNames pending).map Pending.request))) ∨
    ∃ before p after node, accepted plan.parameterNames pending = before ++ p :: after ∧
      node ∈ p.parameter.nodeReferences ∧ plan.nodeKind? node = none ∧
      Build.outcome (offer Plan.engine pending) plan =
        (.error (.engine .parameters p.name (.unknownNode node)),
          plan.addAll (before.map Pending.request)) := by
  have hnodup := List.nodup_append.mp (h.names_nodup hall)
  -- what is pending has names of its own, which the plan does not have yet
  refine Resolution.outcome_offer (fun p hp => hall.fits p (h.sublist.mem hp)) hnodup.2.1 ?_
  intro p hp hmem
  rw [h.parameterNames_eq hstart] at hmem
  exact hnodup.2.2 p.name hmem p.name (List.mem_map_of_mem hp) rfl

theorem created_or_waiting (h : Progress parameters start all created sofar pending plan)
    (hall : Prepared parameters all) {p : Parameter} (hp : p ∈ parameters.entities) :
    p.name ∈ created.map Pending.name ∨ p ∈ pending.map Pending.parameter := by
  obtain ⟨q, hq, rfl⟩ := hall.exists_pending hp
  rcases h.mem_or_mem hq with hq | hq
  · exact Or.inl (List.mem_map_of_mem hq)
  · exact Or.inr (List.mem_map_of_mem hq)

/-- What waits are the parameters that do not exist, in the order of the collection. -/
theorem pending_eq (h : Progress parameters start all created sofar pending plan)
    (hall : Prepared parameters all) (hstart : start.parameters = []) :
    pending.map Pending.parameter =
      parameters.entities.filter fun p => !plan.hasParameter p.name := by
  have hnames := h.parameterNames_eq hstart
  -- one is a sublist of the other and has all its items, so they are equal
  have hsublist : (pending.map Pending.parameter).Sublist
      (parameters.entities.filter fun p => !plan.hasParameter p.name) := by
    have hwaiting : ∀ p ∈ pending.map Pending.parameter, (!plan.hasParameter p.name) = true := by
      intro p hp
      obtain ⟨q, hq, rfl⟩ := List.mem_map.mp hp
      rw [Bool.not_eq_true', ← Bool.not_eq_true, Plan.hasParameter_iff, hnames]
      intro hmem
      have hdisjoint := (List.nodup_append.mp (h.names_nodup hall)).2.2
      exact hdisjoint q.name hmem q.name (List.mem_map_of_mem hq) rfl
    rw [← List.filter_eq_self.mpr hwaiting, ← hall.parameters]
    exact (h.sublist.map Pending.parameter).filter _
  have hnodup : (parameters.entities.filter fun p => !plan.hasParameter p.name).Nodup :=
    (List.Nodup.of_map _ parameters.nodup).filter _
  have hsubset : (parameters.entities.filter fun p => !plan.hasParameter p.name) ⊆
      pending.map Pending.parameter := by
    intro p hp
    obtain ⟨hmem, hnew⟩ := List.mem_filter.mp hp
    rw [Bool.not_eq_true', ← Bool.not_eq_true, Plan.hasParameter_iff, hnames] at hnew
    exact (h.created_or_waiting hall hmem).resolve_left hnew
  exact hsublist.eq_of_length_le (hnodup.subperm hsubset).length_le

/-- Where nothing that waits is ready, each parameter that waits reads another one or an undeclared
name. -/
theorem waits (h : Progress parameters start all created sofar pending plan)
    (hall : Prepared parameters all)
    (hstuck : ∀ p ∈ pending, ¬p.parameter.Ready (created.map Pending.name)) :
    ∀ p ∈ pending.map Pending.parameter, ∃ name ∈ p.parameterReferences,
      parameters.contains name = false ∨ ∃ q ∈ pending.map Pending.parameter, q.name = name := by
  intro p hp
  obtain ⟨waiting, hwaiting, rfl⟩ := List.mem_map.mp hp
  have hshort := hstuck waiting hwaiting
  unfold Parameter.Ready at hshort
  push Not at hshort
  -- it misses a name, which is undeclared or belongs to another one that is left
  obtain ⟨name, hname, hmissing⟩ := hshort
  refine ⟨name, hname, ?_⟩
  rw [or_iff_not_imp_left, Bool.not_eq_false, Collection.contains_iff]
  rintro ⟨q, hq, rfl⟩
  exact ⟨q, (h.created_or_waiting hall hq).resolve_left hmissing, rfl⟩

/-- Where nothing that waits is ready, everything that can be created exists already. -/
theorem mem_of_creatable (h : Progress parameters start all created sofar pending plan)
    (hall : Prepared parameters all)
    (hstuck : ∀ p ∈ pending, ¬p.parameter.Ready (created.map Pending.name)) {name : String}
    (hname : Creatable parameters name) : name ∈ created.map Pending.name := by
  -- what such a parameter reads exists by induction, so if it waited it would be ready
  induction hname with
  | intro p hp _ ih =>
    obtain ⟨q, hq, rfl⟩ := hall.exists_pending hp
    rcases h.mem_or_mem hq with hq | hq
    · exact List.mem_map_of_mem hq
    · have hready : q.parameter.Ready (created.map Pending.name) :=
        fun name hname => ih name (Parameter.names_iff.mpr hname)
      exact absurd hready (hstuck q hq)

end Progress

/-- How a run of rounds against a plan ends, and what it has created by then. -/
inductive Settled (parameters : Collection Parameter) (start : Plan) (all : List Pending) :
    Except ModelError Resolution × Plan → Prop
  | finished {created : List Pending} {sofar : Resolution} {plan : Plan}
      (progress : Progress parameters start all created sofar [] plan) :
      Settled parameters start all (.ok sofar, plan)
  | stuck {created : List Pending} {sofar : Resolution} {pending : List Pending} {plan : Plan}
      (progress : Progress parameters start all created sofar pending plan)
      (waiting : pending ≠ [])
      (short : ∀ p ∈ pending, ¬p.parameter.Ready (created.map Pending.name)) :
      Settled parameters start all
        (.error (diagnose parameters (pending.map Pending.parameter)), plan)
  | refused {created : List Pending} {p : Pending} {node : String}
      (creatable : ∀ q ∈ created, Creatable parameters q.name) (declared : p ∈ all)
      (reached : Creatable parameters p.name) (reads : node ∈ p.parameter.nodeReferences)
      (unknown : start.nodeKind? node = none) :
      Settled parameters start all
        (.error (.engine .parameters p.name (.unknownNode node)),
          start.addAll (created.map Pending.request))

/-- A round after which no fewer parameters are pending has created none. -/
theorem refused_eq_of_length_le {created : List String} {pending : List Pending}
    (h : pending.length ≤ (refused created pending).length) :
    accepted created pending = [] ∧ refused created pending = pending := by
  have hlength := length_accepted_add_length_refused created pending
  constructor
  · apply List.eq_nil_of_length_eq_zero
    omega
  · apply (refused_sublist created pending).eq_of_length
    omega

/-- Rounds come to an end of one of three kinds, by induction on how many parameters are pending. -/
theorem settled_runRounds (hall : Prepared parameters all) (hstart : start.parameters = [])
    (h : Progress parameters start all created sofar pending plan) :
    Settled parameters start all
      (Build.outcome (runRounds Plan.engine parameters sofar pending) plan) := by
  refine outcome_runRounds_induction Plan.engine parameters
    (motive := fun sofar pending plan result => ∀ created,
      Progress parameters start all created sofar pending plan →
      Settled parameters start all result)
    ?done ?failed ?stuck ?again sofar pending plan created h
  case done =>
    intro sofar plan created h
    exact Settled.finished h
  -- all that the round accepted can be created, the parameter that it failed at included
  case failed =>
    intro sofar pending plan e next _ hround created h
    rcases h.outcome_offer hall hstart with
      ⟨-, hout⟩ | ⟨before, p, after, node, hsplit, hnode, hnone, hout⟩
    · rw [hround] at hout
      cases hout
    · rw [hround] at hout
      cases hout
      have hp : p ∈ accepted plan.parameterNames pending := by
        rw [hsplit]
        simp
      have hpending := (accepted_append_refused_perm plan.parameterNames pending).mem_iff.mp
        (List.mem_append_left _ hp)
      have hcreatable := h.creatable_of_accepted hall hstart
      rw [h.plan_eq, ← Plan.addAll_append, ← List.map_append]
      refine Settled.refused ?_ (h.sublist.mem hpending) (hcreatable p hp) hnode ?_
      · refine List.forall_mem_append.mpr ⟨h.creatable, fun q hq => hcreatable q ?_⟩
        rw [hsplit]
        exact List.mem_append_left _ hq
      · rwa [h.nodeKind?_eq] at hnone
  -- a round that puts off everything has left the plan as it was
  case stuck =>
    intro sofar pending plan round next hne hround hlength created h
    rcases h.outcome_offer hall hstart with ⟨-, hout⟩ | ⟨before, p, after, node, -, -, -, hout⟩
    · rw [hround] at hout
      cases hout
      obtain ⟨hnothing, hsame⟩ := refused_eq_of_length_le hlength
      simp only [hnothing, hsame, List.map_nil, Plan.addAll_nil]
      refine Settled.stuck h hne fun p hp => ?_
      rw [← h.parameterNames_eq hstart]
      have hrefused : p ∈ refused plan.parameterNames pending := hsame.symm ▸ hp
      exact not_ready_of_refused hrefused
    · rw [hround] at hout
      cases hout
  case again =>
    intro sofar pending plan round next result _ hround _ ih created h
    rcases h.outcome_offer hall hstart with ⟨hknows, hout⟩ | ⟨before, p, after, node, -, -, -, hout⟩
    · rw [hround] at hout
      cases hout
      exact ih _ (h.next hall hstart hknows)
    · rw [hround] at hout
      cases hout

theorem outcome_resolve_of_specs {σ : Type} {engine : Engine σ} {context : SpecContext}
    (hspecs : specs context parameters = .ok all) (state : σ) :
    Build.outcome (resolve engine context parameters) state =
      Build.outcome (runRounds engine parameters { rounds := 0, order := [] } all) state := by
  have hlift : Build.outcome (liftM (specs context parameters) : Build σ (List Pending)) state =
      (.ok all, state) := by
    rw [Build.outcome_lift, hspecs]
  unfold resolve
  rw [Build.outcome_bind_of_ok hlift]

/-- So does a resolution in which each parameter can be specified. -/
theorem settled_resolve {context : SpecContext} (hspecs : specs context parameters = .ok all)
    (hstart : start.parameters = []) :
    Settled parameters start all
      (Build.outcome (resolve Plan.engine context parameters) start) := by
  rw [outcome_resolve_of_specs hspecs]
  exact settled_runRounds (prepared_of_specs hspecs) hstart Progress.initial

/-- A specification that cannot be built ends the resolution before anything is asked for. -/
theorem outcome_resolve_of_specs_error {σ : Type} {engine : Engine σ} {context : SpecContext}
    {e : ModelError} (hspecs : specs context parameters = .error e) (state : σ) :
    Build.outcome (resolve engine context parameters) state = (.error e, state) := by
  have hlift : Build.outcome (liftM (specs context parameters) : Build σ (List Pending)) state =
      (.error e, state) := by
    rw [Build.outcome_lift, hspecs]
  unfold resolve
  exact Build.outcome_bind_of_error hlift _

end Resolution

end FlowPlan
