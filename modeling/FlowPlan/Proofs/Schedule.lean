import FlowPlan.Proofs.Level
import FlowPlan.Proofs.Resolution

namespace FlowPlan

theorem pairwise_idxOf_lt {xs : List String} (h : xs.Nodup) :
    xs.Pairwise fun a b => xs.idxOf a < xs.idxOf b := by
  rw [List.pairwise_iff_getElem]
  intro i j hi hj hij
  rwa [h.idxOf_getElem, h.idxOf_getElem]

/-- One name comes before another in the order of levels, and on one level in that of the
collection. -/
def Before (parameters : Collection Parameter) (first second : String) : Prop :=
  level parameters first < level parameters second ∨
    level parameters first = level parameters second ∧
      parameters.names.idxOf first < parameters.names.idxOf second

def Call.parameter? : Call → Option String
  | .createParameter name _ => some name
  | _ => none

namespace Resolution

variable {parameters : Collection Parameter} {start plan : Plan}
  {all created pending : List Pending} {sofar : Resolution} {context : SpecContext}

structure Scheduled (parameters : Collection Parameter) (created : List Pending) (rounds : ℕ)
    (pending : List Pending) : Prop where
  past : ∀ p ∈ created, level parameters p.name ≤ rounds
  future : ∀ p ∈ pending, rounds < level parameters p.name
  reached : rounds = 0 ∨ ∃ p ∈ created, level parameters p.name = rounds
  sorted : (created.map Pending.name).Pairwise (Before parameters)

/-- The parameters that are left stand in the order of the collection. -/
theorem Progress.pairwise_pending (h : Progress parameters start all created sofar pending plan)
    (hall : Prepared parameters all) :
    (pending.map Pending.name).Pairwise fun a b =>
      parameters.names.idxOf a < parameters.names.idxOf b := by
  have hsublist := h.sublist.map Pending.name
  rw [hall.names_eq] at hsublist
  exact (pairwise_idxOf_lt parameters.nodup).sublist hsublist

/-- A round creates what is on the next level, and puts off the rest. -/
theorem Progress.accepted_eq_level (h : Progress parameters start all created sofar pending plan)
    (hall : Prepared parameters all) (hstart : start.parameters = [])
    (hclosed : Closed parameters) (hacyclic : Acyclic parameters) {rounds : ℕ}
    (hscheduled : Scheduled parameters created rounds pending) :
    accepted plan.parameterNames pending =
        pending.filter (fun p => level parameters p.name = rounds + 1) ∧
      refused plan.parameterNames pending =
        pending.filter fun p => !decide (level parameters p.name = rounds + 1) := by
  refine accepted_eq_filter (fun p => level parameters p.name = rounds + 1) ?_
  intro before p after hsplit
  have hp : p ∈ pending := by
    rw [hsplit]
    simp
  have hentity := hall.mem_entities (h.sublist.mem hp)
  have hfuture := hscheduled.future p hp
  have hpositions := h.pairwise_pending hall
  rw [hsplit, List.map_append, List.map_cons, List.pairwise_append] at hpositions
  obtain ⟨-, hafter, hbefore⟩ := hpositions
  rw [h.parameterNames_eq hstart, decide_eq_true_eq]
  constructor
  · intro hready
    refine le_antisymm ((level_le_iff hclosed hacyclic hentity).mpr ⟨by omega, ?_⟩) hfuture
    intro read hread
    -- what is read exists from an earlier round, or was created in this one, before `p`
    rcases List.mem_append.mp (hready read hread) with hold | hnew
    · obtain ⟨q, hq, rfl⟩ := List.mem_map.mp hold
      have hpast := hscheduled.past q hq
      unfold delay
      split
      · omega
      · omega
    · obtain ⟨q, hq, rfl⟩ := List.mem_map.mp hnew
      obtain ⟨hq, hlevel⟩ := List.mem_filter.mp hq
      have hposition := hbefore q.name (List.mem_map_of_mem hq) p.name List.mem_cons_self
      have hnow : level parameters q.name = rounds + 1 := of_decide_eq_true hlevel
      have hnone : delay parameters p.parameter.name q.name = 0 := if_neg (Nat.lt_asymm hposition)
      omega
  · intro hlevel read hread
    have hbound := ((level_le_iff hclosed hacyclic hentity).mp hlevel.le).2 read hread
    obtain ⟨r, hr, rfl⟩ := hclosed.exists_of_reads hentity hread
    obtain ⟨q, hq, rfl⟩ := hall.exists_pending hr
    rcases h.mem_or_mem hq with hq | hq
    · exact List.mem_append_left _ (List.mem_map_of_mem hq)
    · have hlate : rounds < level parameters q.parameter.name := hscheduled.future q hq
      have hnow : level parameters q.parameter.name = rounds + 1 := by omega
      refine List.mem_append_right _ (List.mem_map_of_mem (List.mem_filter.mpr ⟨?_, ?_⟩))
      · rw [hsplit] at hq
        rcases List.mem_append.mp hq with hq | hq
        · exact hq
        · -- a parameter at or after `p` would put `p` on a later level
          rcases List.mem_cons.mp hq with rfl | hq
          · exact absurd (Relation.TransGen.single (reads_of_mem hentity hread)) (hacyclic _)
          · have hposition := List.rel_of_pairwise_cons hafter (List.mem_map_of_mem hq)
            have hone : delay parameters p.parameter.name q.parameter.name = 1 := if_pos hposition
            omega
      · exact decide_eq_true hnow

/-- Before the first round nothing is created, and every parameter has its level ahead. -/
theorem Scheduled.initial (hclosed : Closed parameters) (hacyclic : Acyclic parameters)
    (hall : Prepared parameters all) : Scheduled parameters [] 0 all where
  past := by simp
  future := fun _ hp =>
    ((level_le_iff hclosed hacyclic (hall.mem_entities hp)).mp le_rfl).1
  reached := Or.inl rfl
  sorted := List.Pairwise.nil

/-- A round that creates anything keeps to the schedule. -/
theorem Scheduled.next {rounds : ℕ} (hscheduled : Scheduled parameters created rounds pending)
    (h : Progress parameters start all created sofar pending plan)
    (hall : Prepared parameters all) (hstart : start.parameters = [])
    (hclosed : Closed parameters) (hacyclic : Acyclic parameters)
    (hsome : (refused plan.parameterNames pending).length < pending.length) :
    Scheduled parameters (created ++ accepted plan.parameterNames pending) (rounds + 1)
      (refused plan.parameterNames pending) := by
  obtain ⟨haccepted, hrefused⟩ := h.accepted_eq_level hall hstart hclosed hacyclic hscheduled
  have hlength := length_accepted_add_length_refused plan.parameterNames pending
  have hlevel : ∀ p ∈ accepted plan.parameterNames pending,
      level parameters p.name = rounds + 1 := by
    intro p hp
    rw [haccepted] at hp
    exact of_decide_eq_true (List.mem_filter.mp hp).2
  constructor
  · intro p hp
    rcases List.mem_append.mp hp with hp | hp
    · exact (hscheduled.past p hp).trans (Nat.le_succ rounds)
    · exact (hlevel p hp).le
  · intro p hp
    rw [hrefused] at hp
    obtain ⟨hmem, hnot⟩ := List.mem_filter.mp hp
    have hlate := hscheduled.future p hmem
    have hother : level parameters p.name ≠ rounds + 1 := by simpa using hnot
    omega
  -- some parameter was created, and its level is the number of this round
  · obtain ⟨p, hp⟩ := List.exists_mem_of_length_pos
      (l := accepted plan.parameterNames pending) (by omega)
    exact Or.inr ⟨p, List.mem_append_right _ hp, hlevel p hp⟩
  · rw [List.map_append, List.pairwise_append]
    refine ⟨hscheduled.sorted, ?_, ?_⟩
    -- within the round, levels are equal and positions ascend
    · have hpositions : ((accepted plan.parameterNames pending).map Pending.name).Pairwise
          fun a b => parameters.names.idxOf a < parameters.names.idxOf b := by
        rw [haccepted]
        exact (h.pairwise_pending hall).sublist (List.filter_sublist.map _)
      refine hpositions.imp_of_mem fun {a b} ha hb hposition => ?_
      obtain ⟨p, hp, rfl⟩ := List.mem_map.mp ha
      obtain ⟨q, hq, rfl⟩ := List.mem_map.mp hb
      exact Or.inr ⟨(hlevel p hp).trans (hlevel q hq).symm, hposition⟩
    · intro a ha b hb
      obtain ⟨p, hp, rfl⟩ := List.mem_map.mp ha
      obtain ⟨q, hq, rfl⟩ := List.mem_map.mp hb
      have hpast := hscheduled.past p hp
      have hnow := hlevel q hq
      exact Or.inl (by omega)

/-- A run of rounds that ends well has kept to the schedule. -/
theorem scheduled_runRounds (hall : Prepared parameters all) (hstart : start.parameters = [])
    (hclosed : Closed parameters) (hacyclic : Acyclic parameters)
    (h : Progress parameters start all created sofar pending plan)
    (hscheduled : Scheduled parameters created sofar.rounds pending) {result : Resolution}
    {final : Plan}
    (hresult : Build.outcome (runRounds Plan.engine parameters sofar pending) plan =
      (.ok result, final)) :
    ∃ created, Progress parameters start all created result [] final ∧
      Scheduled parameters created result.rounds [] := by
  -- the invariant is carried through the rounds; a result without error leaves two of the cases
  refine outcome_runRounds_induction Plan.engine parameters
    (motive := fun sofar pending plan outcome => ∀ created,
      Progress parameters start all created sofar pending plan →
      Scheduled parameters created sofar.rounds pending → outcome = (.ok result, final) →
      ∃ created, Progress parameters start all created result [] final ∧
        Scheduled parameters created result.rounds [])
    ?done ?failed ?stuck ?again sofar pending plan created h hscheduled hresult
  case done =>
    intro sofar plan created h hscheduled hresult
    cases hresult
    exact ⟨created, h, hscheduled⟩
  case failed =>
    intro sofar pending plan e next _ _ created _ _ hresult
    cases hresult
  case stuck =>
    intro sofar pending plan round next _ _ _ created _ _ hresult
    cases hresult
  case again =>
    intro sofar pending plan round next outcome _ hround hlength ih created h hscheduled hresult
    rcases h.outcome_offer hall hstart with ⟨hknows, hout⟩ | ⟨before, p, after, node, -, -, -, hout⟩
    · rw [hround] at hout
      cases hout
      exact ih _ (h.next hall hstart hknows)
        (hscheduled.next h hall hstart hclosed hacyclic hlength) hresult
    · rw [hround] at hout
      cases hout

/-- The last round is that of the highest level. -/
theorem Scheduled.rounds_eq {rounds : ℕ} (hscheduled : Scheduled parameters created rounds [])
    (hall : Prepared parameters all) (hperm : created.Perm all) :
    rounds = (parameters.names.map (level parameters)).foldr max 0 := by
  rw [← hall.names_eq, List.map_map]
  -- the last round created something on its level, and nothing is on a higher one
  apply le_antisymm
  · have hbound := foldr_max_le_iff.mp
      (le_refl (((all.map (level parameters ∘ Pending.name)).foldr max 0)))
    rcases hscheduled.reached with hzero | ⟨p, hp, hlevel⟩
    · rw [hzero]
      exact Nat.zero_le _
    · rw [← hlevel]
      exact hbound.2 _ (List.mem_map.mpr ⟨p, hperm.mem_iff.mp hp, rfl⟩)
  · refine foldr_max_le_iff.mpr ⟨Nat.zero_le _, List.forall_mem_map.mpr fun p hp => ?_⟩
    exact hscheduled.past p (hperm.mem_iff.mpr hp)

/-- Parameters that read only declared ones, nowhere in circles, and only known nodes, are all
created: in as many rounds as the largest level says, and in the order of levels and positions. -/
theorem resolve_schedule (hclosed : Closed parameters) (hacyclic : Acyclic parameters)
    (hspecs : ∀ p ∈ parameters.entities, ∃ spec, p.spec context = .ok spec)
    (hknown : ∀ p ∈ parameters.entities, plan.Knows p) (hnew : plan.parameters = []) :
    (∀ p ∈ parameters.entities, level parameters p.name =
      (p.parameterReferences.map fun read =>
        level parameters read + delay parameters p.name read).foldr max 1) ∧
    ∃ resolution final added,
      Build.outcome (resolve Plan.engine context parameters) plan = (.ok resolution, final) ∧
      resolution.rounds = (parameters.names.map (level parameters)).foldr max 0 ∧
      resolution.order.Perm parameters.names ∧
      resolution.order.Pairwise (Before parameters) ∧
      final.calls = plan.calls ++ added ∧
      added.map Call.parameter? = resolution.order.map some := by
  refine ⟨fun p hp => level_eq hclosed hacyclic hp, ?_⟩
  obtain ⟨resolution, final, hend⟩ :=
    (resolve_succeeds_iff hnew).mpr ⟨hspecs, hclosed, hacyclic, hknown⟩
  obtain ⟨all, hspecs⟩ := exists_specs_iff.mpr hspecs
  have hall := prepared_of_specs hspecs
  refine ⟨resolution, final, ?_⟩
  rw [hend]
  rw [outcome_resolve_of_specs hspecs] at hend
  -- at the end, the schedule covers all that was created, which is everything
  obtain ⟨created, progress, hscheduled⟩ := scheduled_runRounds hall hnew hclosed hacyclic
    Progress.initial (Scheduled.initial hclosed hacyclic hall) hend
  have hperm : created.Perm all := by simpa using progress.perm
  refine ⟨(created.map Pending.request).map Call.ofRequest, rfl,
    hscheduled.rounds_eq hall hperm, ?_, ?_, ?_, ?_⟩
  · rw [progress.order_eq, ← hall.names_eq]
    exact hperm.map Pending.name
  · rw [progress.order_eq]
    exact hscheduled.sorted
  · rw [progress.plan_eq, Plan.calls_addAll]
  · rw [progress.order_eq, List.map_map, List.map_map, List.map_map]
    rfl

/-- A parameter that reads one declared after it, which reads one declared before itself. -/
def ladder : Collection Parameter where
  entities := [opposite "top" "middle", rain (some "rain.csv") none, opposite "middle" "rain"]
  nodup := by decide

theorem resolve_schedule_ladder :
    ∃ resolution final,
      Build.outcome (resolve Plan.engine { tables := .empty, basePath := none } ladder)
        (Plan.new []) = (.ok resolution, final) ∧
      resolution.rounds = 2 ∧ resolution.order.Perm ["top", "rain", "middle"] ∧
      resolution.order.Pairwise (Before ladder) := by
  have hrain : Creatable ladder "rain" := by
    refine Creatable.intro (rain (some "rain.csv") none) (by simp [ladder]) fun name hname => ?_
    cases hname
  have hmiddle : Creatable ladder "middle" := by
    refine Creatable.intro (opposite "middle" "rain") (by simp [ladder]) fun name hname => ?_
    cases names_opposite hname
    exact hrain
  have htop : Creatable ladder "top" := by
    refine Creatable.intro (opposite "top" "middle") (by simp [ladder]) fun name hname => ?_
    cases names_opposite hname
    exact hmiddle
  have hcreatable : ∀ p ∈ ladder.entities, Creatable ladder p.name := by
    simp only [ladder, List.forall_mem_cons]
    exact ⟨htop, hrain, hmiddle, by simp⟩
  obtain ⟨hclosed, hacyclic⟩ := Creatable.forall_iff.mp hcreatable
  have hspecs : ∀ p ∈ ladder.entities, ∃ spec,
      p.spec { tables := .empty, basePath := none } = .ok spec := by
    simp only [ladder, List.forall_mem_cons]
    exact ⟨⟨_, rfl⟩, ⟨_, rfl⟩, ⟨_, rfl⟩, by simp⟩
  have hknown : ∀ p ∈ ladder.entities, (Plan.new []).Knows p := by
    have hnodes : ∀ p ∈ ladder.entities, p.nodeReferences = [] := by decide
    intro p hp
    rw [Plan.knows_iff, hnodes p hp]
    exact List.forall_mem_nil _
  obtain ⟨-, resolution, final, added, hend, hrounds, hperm, hsorted, -⟩ :=
    resolve_schedule hclosed hacyclic hspecs hknown rfl
  have hlargest : (ladder.names.map (level ladder)).foldr max 0 = 2 := by decide
  exact ⟨resolution, final, hend, hrounds.trans hlargest, hperm, hsorted⟩

def gauged : Collection Parameter where
  entities := [rain none (some "gauges")]
  nodup := by decide

/-- Without the table there is no specification of such a parameter, and it is not created. -/
theorem resolve_fails_without_table :
    Closed gauged ∧ Acyclic gauged ∧ (∀ p ∈ gauged.entities, (Plan.new []).Knows p) ∧
      (Plan.new []).parameters = [] ∧
      ¬∃ resolution final,
        Build.outcome (resolve Plan.engine { tables := .empty, basePath := none } gauged)
          (Plan.new []) = (.ok resolution, final) := by
  have hcreatable : ∀ p ∈ gauged.entities, Creatable gauged p.name := by
    intro p hp
    refine Creatable.intro p hp fun name hname => ?_
    rw [List.mem_singleton.mp hp] at hname
    cases hname
  obtain ⟨hclosed, hacyclic⟩ := Creatable.forall_iff.mp hcreatable
  refine ⟨hclosed, hacyclic, ?_, rfl, ?_⟩
  · intro p hp node hnode
    rw [List.mem_singleton.mp hp] at hnode
    cases hnode
  · rintro ⟨resolution, final, hend⟩
    -- the spec of the only parameter looks up a table that is not there
    have hspecs : specs { tables := .empty, basePath := none } gauged =
        .error (.notFound .tables "gauges") := rfl
    rw [outcome_resolve_of_specs_error hspecs] at hend
    cases hend

end Resolution

end FlowPlan
