import FlowPlan.Proofs.Failure

namespace FlowPlan

/-- What an engine needs for a valid parameter can only lack a table. -/
theorem Parameter.exists_table_of_spec_eq_error {context : SpecContext} {p : Parameter}
    (hvalid : p.invalidity? = none) {e : ModelError} (h : p.spec context = .error e) :
    ∃ frame table, p = .dataFrame frame ∧ frame.url = none ∧ frame.table = some table ∧
      context.tables.contains table = false ∧ e = .notFound .tables table := by
  unfold spec at h
  rcases bind_eq_error_iff.mp h with hfiles | ⟨_, -, hspec⟩
  swap
  · cases hspec
  -- only a data frame can fail, and a valid one only for its table
  cases p with
  | dataFrame frame =>
    rcases bind_eq_error_iff.mp hfiles with hdata | ⟨_, -, hlist⟩
    swap
    · cases hlist
    unfold dataFile at hdata
    cases hurl : frame.url with
    | some url => simp [hurl] at hdata
    | none =>
      cases htable : frame.table with
      | none => simp [invalidity?, hurl, htable] at hvalid
      | some table =>
        simp only [hurl, htable] at hdata
        rcases bind_eq_error_iff.mp hdata with hget | ⟨_, -, hpath⟩
        swap
        · cases hpath
        obtain ⟨hunknown, rfl⟩ := Collection.get_eq_error_iff.mp hget
        exact ⟨frame, table, rfl, hurl, htable, hunknown, rfl⟩
  | _ => cases hfiles

namespace Resolution

variable {parameters : Collection Parameter} {start plan : Plan}
  {all created pending : List Pending} {sofar : Resolution}

/-- Where nothing that waits is ready, the nodes of all that can be created are known. -/
theorem Progress.knows_of_creatable (h : Progress parameters start all created sofar pending plan)
    (hall : Prepared parameters all)
    (hstuck : ∀ p ∈ pending, ¬p.parameter.Ready (created.map Pending.name)) :
    ∀ p ∈ parameters.entities, Creatable parameters p.name → start.Knows p := by
  intro p hp hcreatable
  obtain ⟨q, hq, hname⟩ := List.mem_map.mp (h.mem_of_creatable hall hstuck hcreatable)
  have hsame : q.parameter = p :=
    Collection.eq_of_name_eq (hall.mem_entities (h.mem_all_of_created hq)) hp hname
  exact hsame ▸ h.knows q hq

end Resolution

namespace Model

open Build Resolution

/-- How the parameters of a model fail to be created on its foundation. -/
inductive Standstill (model : Model) (plan : Plan) : ModelError → Prop
  | table {frame : DataFrameParameter} {name : String}
      (declared : .dataFrame frame ∈ model.parameters.entities) (bare : frame.url = none)
      (named : frame.table = some name) (undeclared : model.tables.contains name = false) :
      Standstill model plan (.notFound .tables name)
  -- all that the parameter reads can be created, so that its turn comes
  | storage {p : Parameter} {name : String} (specified : model.TablesDeclared)
      (declared : p ∈ model.parameters.entities) (creatable : Creatable model.parameters p.name)
      (reads : p.Stores name) (unknown : plan.nodeKind? name = none) :
      Standstill model plan (.engine .parameters p.name (.unknownNode name))
  | stuck {e : ModelError} {stuck : List Parameter} (specified : model.TablesDeclared)
      (known : ∀ p ∈ model.parameters.entities, Creatable model.parameters p.name → plan.Knows p)
      (nodup : stuck.Nodup)
      (mem_stuck : ∀ p, p ∈ stuck ↔
        p ∈ model.parameters.entities ∧ ¬Creatable model.parameters p.name)
      (diagnosed : Diagnosed model.parameters stuck e) : Standstill model plan e

variable {model : Model} {plan : Plan} {e : ModelError}

/-- When resolution stops, the model says why: a table that is not declared, a node that is not
there, or parameters that cannot be created. -/
theorem standstill_of_resolve (hvalid : model.Valid) (hnew : plan.parameters = [])
    {stopped : Plan}
    (hend : outcome (resolve Plan.engine model.specContext model.parameters) plan =
      (.error e, stopped)) : model.Standstill plan e := by
  -- resolution ends before the rounds, in a round without progress, or at a refusal
  cases hspecs : specs model.specContext model.parameters with
  | error e' =>
    rw [outcome_resolve_of_specs_error hspecs] at hend
    cases hend
    obtain ⟨p, hp, hspec⟩ := exists_spec_error_of_specs_error hspecs
    obtain ⟨frame, table, rfl, hurl, htable, hnot, rfl⟩ :=
      Parameter.exists_table_of_spec_eq_error (hvalid.parameters p hp) hspec
    exact .table hp hurl htable hnot
  | ok all =>
    have hspecified : model.TablesDeclared :=
      (forall_exists_spec_iff hvalid).mp (exists_specs_iff.mp ⟨all, hspecs⟩)
    have hprepared := prepared_of_specs hspecs
    have hsettled := settled_resolve hspecs hnew
    rw [hend] at hsettled
    cases hsettled with
    | @stuck created sofar pending _ progress _ short =>
      have hdiagnosed := progress.diagnosed hprepared hnew short
      rw [← progress.pending_eq hprepared hnew] at hdiagnosed
      have hnodup : (pending.map Pending.parameter).Nodup := by
        rw [progress.pending_eq hprepared hnew]
        exact (List.Nodup.of_map _ model.parameters.nodup).filter _
      exact .stuck hspecified (progress.knows_of_creatable hprepared short) hnodup
        (fun p => progress.mem_pending_iff hprepared hnew short) hdiagnosed
    | refused _ declared reached reads unknown =>
      exact .storage hspecified (hprepared.mem_entities declared) reached
        (Parameter.stores_iff.mpr reads) unknown

end Model

end FlowPlan
