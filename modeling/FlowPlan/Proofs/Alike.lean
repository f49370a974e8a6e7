import FlowPlan.Proofs.Rearrangement
import FlowPlan.Proofs.Standstill

namespace FlowPlan

/-- Whether two errors of builds are of one kind. Where parameters are stuck they report the same
names, each in an order of its own. -/
inductive ModelError.Alike : ModelError → ModelError → Prop
  | refused {phase : BuildPhase} {entity entity' : String} {source source' : EngineError}
      (other : phase ≠ .parameters) :
      Alike (.engine phase entity source) (.engine phase entity' source')
  | storage {entity entity' name name' : String} :
      Alike (.engine .parameters entity (.unknownNode name))
        (.engine .parameters entity' (.unknownNode name'))
  | table {name name' : String} : Alike (.notFound .tables name) (.notFound .tables name')
  | circular {parameters parameters' : List String} (perm : parameters.Perm parameters') :
      Alike (.cyclicDependency parameters) (.cyclicDependency parameters')
  | astray {parameters parameters' missing missing' cyclic cyclic' : List String}
      (parameters_perm : parameters.Perm parameters') (missing_perm : missing.Perm missing')
      (cyclic_perm : cyclic.Perm cyclic') :
      Alike (.unresolvedReference parameters missing cyclic)
        (.unresolvedReference parameters' missing' cyclic')

namespace BuildPhase

def rank : BuildPhase → ℕ
  | nodes => 1
  | edges => 2
  | parameters => 3
  | recorders => 4
  | outputs => 5
  | constraints => 6
  | run => 7

theorem rank_injective : Function.Injective rank := by
  intro first second h
  cases first <;> cases second <;> first | rfl | cases h

theorem rank_pos (phase : BuildPhase) : 0 < phase.rank := by
  cases phase <;> decide

end BuildPhase

section

variable {first second : Collection Parameter} {stuck stuck' : List Parameter}

/-- What leads astray does so in any order of the declarations. -/
theorem LeadsAstray.iff_of_perm (h : first.entities.Perm second.entities)
    (hstuck : stuck.Perm stuck') {name : String} :
    LeadsAstray first stuck name ↔ LeadsAstray second stuck' name := by
  unfold LeadsAstray
  simp only [Reads.eq_of_perm hstuck, Collection.contains_eq_of_perm h]

/-- Where some items are split in two, the one part tells what the other one is. -/
theorem mem_iff_of_perm_of_disjoint {α : Type} {xs ys all : List α} {P : α → Prop}
    (hall : (xs ++ ys).Perm all) (hdisjoint : xs.Disjoint ys) (hxs : ∀ a ∈ all, a ∈ xs ↔ P a)
    (a : α) : (a ∈ xs ↔ a ∈ all ∧ P a) ∧ (a ∈ ys ↔ a ∈ all ∧ ¬P a) := by
  have hmem : a ∈ all ↔ a ∈ xs ∨ a ∈ ys := by
    rw [← hall.mem_iff, List.mem_append]
  constructor
  · constructor
    · intro ha
      have haall : a ∈ all := hmem.mpr (Or.inl ha)
      exact ⟨haall, (hxs a haall).mp ha⟩
    · rintro ⟨haall, hP⟩
      exact (hxs a haall).mpr hP
  · constructor
    · intro ha
      have haall : a ∈ all := hmem.mpr (Or.inr ha)
      exact ⟨haall, fun hP => hdisjoint ((hxs a haall).mpr hP) ha⟩
    · rintro ⟨haall, hnot⟩
      exact (hmem.mp haall).resolve_left fun ha => hnot ((hxs a haall).mp ha)

/-- What is said of the same parameters in two orders is the same. -/
theorem Diagnosed.alike (h : first.entities.Perm second.entities) (hstuck : stuck.Perm stuck')
    (hnodup : stuck.Nodup) {e e' : ModelError} (hfirst : Diagnosed first stuck e)
    (hsecond : Diagnosed second stuck' e') : e.Alike e' := by
  -- the two collections declare the same names, so both orders give the same verdict
  have hcontains := Collection.contains_eq_of_perm h
  cases hfirst with
  | circular declared _ =>
    cases hsecond with
    | circular _ _ => exact .circular (hstuck.map Parameter.name)
    | astray undeclared _ _ _ _ _ _ =>
      obtain ⟨p, hp, name, hname, hnot⟩ := undeclared
      rw [← hcontains, declared p (hstuck.mem_iff.mpr hp) name hname] at hnot
      cases hnot
  | @astray dependent cyclic undeclared hdependent hcyclic complete disjoint mem_dependent _ =>
    cases hsecond with
    | circular declared _ =>
      obtain ⟨p, hp, name, hname, hnot⟩ := undeclared
      rw [hcontains, declared p (hstuck.mem_iff.mp hp) name hname] at hnot
      cases hnot
    | @astray dependent' cyclic' _ hdependent' hcyclic' complete' disjoint' mem_dependent' _ =>
      -- a stuck parameter is on the same side in both, since leading astray is a matter of names
      have hparts (p : Parameter) :
          (p ∈ dependent ↔ p ∈ dependent') ∧ (p ∈ cyclic ↔ p ∈ cyclic') := by
        obtain ⟨hd, hc⟩ := mem_iff_of_perm_of_disjoint complete disjoint mem_dependent p
        obtain ⟨hd', hc'⟩ := mem_iff_of_perm_of_disjoint complete' disjoint' mem_dependent' p
        rw [hd, hd', hc, hc', hstuck.mem_iff, LeadsAstray.iff_of_perm h hstuck]
        exact ⟨Iff.rfl, Iff.rfl⟩
      have hnodup' : stuck'.Nodup := hstuck.nodup_iff.mp hnodup
      have hmissing : (Resolution.undeclared first
          (stuck.flatMap Parameter.parameterReferences)).eraseDups.Perm
          (Resolution.undeclared second
            (stuck'.flatMap Parameter.parameterReferences)).eraseDups := by
        refine (List.perm_ext_iff_of_nodup (nodup_eraseDups _) (nodup_eraseDups _)).mpr
          fun name => ?_
        unfold Resolution.undeclared
        simp only [List.mem_eraseDups, List.mem_filter, List.mem_flatMap, hstuck.mem_iff,
          hcontains]
      -- the lists have no repetition, so the same members make them permutations of each other
      refine .astray (List.Perm.map _ ?_) hmissing (List.Perm.map _ ?_)
      · exact (List.perm_ext_iff_of_nodup (hdependent.nodup hnodup)
          (hdependent'.nodup hnodup')).mpr fun p => (hparts p).1
      · exact (List.perm_ext_iff_of_nodup (hcyclic.nodup hnodup)
          (hcyclic'.nodup hnodup')).mpr fun p => (hparts p).2

end

namespace Model

variable {first second : Model} {plan other : Plan} {e e' : ModelError}

theorem not_tablesDeclared {frame : DataFrameParameter} {name : String}
    (declared : .dataFrame frame ∈ first.parameters.entities) (bare : frame.url = none)
    (named : frame.table = some name) (undeclared : first.tables.contains name = false) :
    ¬first.TablesDeclared := by
  intro hall
  have hdeclared := hall frame declared bare name named
  rw [undeclared] at hdeclared
  cases hdeclared

/-- Models that declare the same come to a standstill of the same kind. -/
theorem Standstill.alike (h : first.Rearranged second) (hfounded : Founded first plan)
    (hfounded' : Founded second other) (hfirst : first.Standstill plan e)
    (hsecond : second.Standstill other e') : e.Alike e' := by
  have htables := h.tablesDeclared_iff
  -- whether a plan knows the nodes of what can be created is the same for both models
  have hknown : (∀ p ∈ first.parameters.entities, Creatable first.parameters p.name →
      plan.Knows p) ↔ ∀ p ∈ second.parameters.entities, Creatable second.parameters p.name →
        other.Knows p := by
    simp only [h.parameters.mem_iff, Creatable.iff_of_perm h.parameters,
      h.knows_iff hfounded hfounded']
  -- only equal kinds of standstill can meet: every other pair contradicts one of these two facts
  cases hfirst with
  | table declared bare named undeclared =>
    have hlacking := not_tablesDeclared declared bare named undeclared
    cases hsecond with
    | table _ _ _ _ => exact .table
    | storage specified _ _ _ _ => exact absurd (htables.mpr specified) hlacking
    | stuck specified _ _ _ _ => exact absurd (htables.mpr specified) hlacking
  | storage specified declared creatable reads unknown =>
    cases hsecond with
    | table declared bare named undeclared =>
      exact absurd (htables.mp specified) (not_tablesDeclared declared bare named undeclared)
    | storage _ _ _ _ _ => exact .storage
    | stuck _ known _ _ _ =>
      exact absurd unknown (hknown.mpr known _ declared creatable _ reads)
  | stuck specified known nodup mem_stuck diagnosed =>
    cases hsecond with
    | table declared bare named undeclared =>
      exact absurd (htables.mp specified) (not_tablesDeclared declared bare named undeclared)
    | storage _ declared creatable reads unknown =>
      exact absurd unknown (hknown.mp known _ declared creatable _ reads)
    | stuck _ _ nodup' mem_stuck' diagnosed' =>
      refine diagnosed.alike h.parameters ?_ nodup diagnosed'
      refine (List.perm_ext_iff_of_nodup nodup nodup').mpr fun p => ?_
      rw [mem_stuck, mem_stuck', h.parameters.mem_iff, Creatable.iff_of_perm h.parameters]

variable {phase phase' : BuildPhase}

/-- A phase that a model breaks is one whose needs it does not meet. -/
theorem Breaks.lacking (h : first.Breaks phase e) : ¬first.Meets phase := by
  cases h with
  | nodes lacking _ => exact lacking
  | edges _ lacking _ _ => exact lacking
  | parameters _ _ lacking _ _ _ => exact lacking
  | recorders _ _ _ lacking _ _ _ _ => exact lacking
  | constraints _ _ _ _ lacking _ _ _ => exact lacking

/-- What the phases before need holds of the model. -/
theorem Breaks.met (h : first.Breaks phase e) {earlier : BuildPhase}
    (hearlier : earlier.rank < phase.rank) : first.Meets earlier := by
  cases h with
  | nodes =>
    -- there is no phase before the nodes
    change earlier.rank < 1 at hearlier
    have hpositive : 0 < earlier.rank := earlier.rank_pos
    omega
  | edges laid =>
    cases earlier with
    | nodes => exact laid
    | _ => simp [BuildPhase.rank] at hearlier
  | parameters laid connected =>
    cases earlier with
    | nodes => exact laid
    | edges => exact connected
    | _ => simp [BuildPhase.rank] at hearlier
  | recorders laid connected resolved =>
    cases earlier with
    | nodes => exact laid
    | edges => exact connected
    | parameters => exact resolved
    | _ => simp [BuildPhase.rank] at hearlier
  | constraints laid connected resolved recorded =>
    cases earlier with
    | nodes => exact laid
    | edges => exact connected
    | parameters => exact resolved
    | recorders => exact recorded
    | outputs => trivial
    | _ => simp [BuildPhase.rank] at hearlier

/-- Models that declare the same break down in the same phase. -/
theorem Breaks.rank_eq (h : first.Rearranged second) (hfirst : first.Breaks phase e)
    (hsecond : second.Breaks phase' e') : phase.rank = phase'.rank := by
  rcases Nat.lt_trichotomy phase.rank phase'.rank with hlt | heq | hgt
  · have hmet : first.Meets phase := (h.meets_iff phase).mpr (hsecond.met hlt)
    exact absurd hmet hfirst.lacking
  · exact heq
  · have hmet : second.Meets phase' := (h.meets_iff phase').mp (hfirst.met hgt)
    exact absurd hmet hsecond.lacking

/-- Where requests of one phase are refused, the error is one of the engine in that phase. -/
theorem exists_engine_error {requests : List Request} (h : plan.Refuses requests e)
    (hphase : ∀ request ∈ requests, request.phase = phase) :
    ∃ entity source, e = .engine phase entity source := by
  cases h with
  | @intro before after request entity source split granted refused =>
    have hrequest : request.phase = phase := hphase request (by simp [split])
    exact ⟨entity, source, hrequest ▸ rfl⟩

/-- Everywhere but among the parameters, a build only fails where the engine refuses a request. -/
theorem Breaks.exists_engine_error (h : first.Breaks phase e) (hother : phase ≠ .parameters) :
    ∃ entity source, e = .engine phase entity source := by
  cases h with
  | nodes _ refused => exact Model.exists_engine_error refused phase_of_mem_nodeRequests
  | edges _ _ _ refused => exact Model.exists_engine_error refused phase_of_mem_edgeRequests
  | parameters => exact absurd rfl hother
  | recorders _ _ _ _ _ _ _ refused =>
    exact Model.exists_engine_error refused (List.forall_mem_map.mpr fun _ _ => rfl)
  | constraints _ _ _ _ _ _ _ refused =>
    exact Model.exists_engine_error refused phase_of_mem_limitRequests

/-- Models that declare the same break down with errors of one kind. -/
theorem Breaks.alike (h : first.Rearranged second) (hvalid : first.Valid)
    (hvalid' : second.Valid) (hfirst : first.Breaks phase e) (hsecond : second.Breaks phase' e') :
    e.Alike e' := by
  -- both lack what the same phase demands, as a phase breaks only if those before it are met
  have hphase : phase = phase' := BuildPhase.rank_injective (hfirst.rank_eq h hsecond)
  subst hphase
  by_cases hparameters : phase = .parameters
  · subst hparameters
    cases hfirst with
    | parameters _ _ _ founded new failed =>
      cases hsecond with
      | parameters _ _ _ founded' new' failed' =>
        have hfirst := standstill_of_resolve hvalid new failed
        have hsecond := standstill_of_resolve hvalid' new' failed'
        exact hfirst.alike h founded founded' hsecond
  · obtain ⟨entity, source, rfl⟩ := hfirst.exists_engine_error hparameters
    obtain ⟨entity', source', rfl⟩ := hsecond.exists_engine_error hparameters
    exact .refused hparameters

end Model

end FlowPlan
