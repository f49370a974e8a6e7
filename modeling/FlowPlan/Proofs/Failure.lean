import FlowPlan.Proofs.Build
import FlowPlan.Proofs.Building
import FlowPlan.Proofs.Denial

namespace FlowPlan

namespace Model

open Build

/-- How the build of a model on a plan fails: in one of its phases, on the plan that the phases
before it leave. -/
inductive Fails (model : Model) (plan : Plan) : ModelError → Prop
  | nodes {e : ModelError} (refused : plan.Refuses model.nodeRequests e) : Fails model plan e
  | edges {e : ModelError} (laid : plan.Admits model.nodeRequests)
      (refused : (plan.addAll model.nodeRequests).Refuses
        (model.edges.flatMap model.edgeRequests) e) : Fails model plan e
  | parameters {e : ModelError} {stopped : Plan} (laid : plan.Admits model.nodeRequests)
      (connected : (plan.addAll model.nodeRequests).Admits
        (model.edges.flatMap model.edgeRequests))
      (failed : outcome (Resolution.resolve Plan.engine model.specContext model.parameters)
        ((plan.addAll model.nodeRequests).addAll (model.edges.flatMap model.edgeRequests)) =
          (.error e, stopped)) : Fails model plan e
  | final {e : ModelError} {resolution : Resolution} {resolved : Plan}
      (laid : plan.Admits model.nodeRequests)
      (connected : (plan.addAll model.nodeRequests).Admits
        (model.edges.flatMap model.edgeRequests))
      (created : outcome (Resolution.resolve Plan.engine model.specContext model.parameters)
        ((plan.addAll model.nodeRequests).addAll (model.edges.flatMap model.edgeRequests)) =
          (.ok resolution, resolved))
      (refused : resolved.Refuses model.finalRequests e) : Fails model plan e

/-- A build that fails does so in one of its phases. -/
theorem fails_of_build {model : Model} {plan final : Plan} {e : ModelError}
    (h : outcome (model.build Plan.engine) plan = (.error e, final)) : model.Fails plan e := by
  unfold build at h
  -- each phase is left by the next one, or it is the one that fails
  rcases outcome_of_follows model.follows_createNodes plan with
    ⟨hlaid, hnodes⟩ | ⟨_, _, hnodes, hrefused⟩
  swap
  · rw [outcome_bind_of_error hnodes] at h
    cases h
    exact .nodes hrefused
  rw [outcome_bind_of_ok hnodes] at h
  rcases outcome_of_follows model.follows_createEdges (plan.addAll model.nodeRequests) with
    ⟨hconnected, hedges⟩ | ⟨_, _, hedges, hrefused⟩
  swap
  · rw [outcome_bind_of_error hedges] at h
    cases h
    exact .edges hlaid hrefused
  rw [outcome_bind_of_ok hedges] at h
  rcases hresolve : outcome (Resolution.resolve Plan.engine model.specContext model.parameters)
      ((plan.addAll model.nodeRequests).addAll (model.edges.flatMap model.edgeRequests)) with
    ⟨_ | resolution, resolved⟩
  · rw [outcome_bind_of_error hresolve] at h
    cases h
    exact .parameters hlaid hconnected hresolve
  rw [outcome_bind_of_ok hresolve, outcome_note_bind] at h
  have hfinal (e : ModelError) (hrefused : resolved.Refuses model.finalRequests e) :
      model.Fails plan e := .final hlaid hconnected hresolve hrefused
  unfold finalRequests at hfinal
  rcases outcome_of_follows model.follows_createRecorders resolved with
    ⟨hrecorded, hrecorders⟩ | ⟨_, _, hrecorders, hrefused⟩
  swap
  · rw [outcome_bind_of_error hrecorders] at h
    cases h
    exact hfinal _ (Plan.refuses_append_iff.mpr (Or.inl hrefused))
  rw [outcome_bind_of_ok hrecorders] at h
  have hlater (e : ModelError)
      (hrefused : (resolved.addAll (model.recorders.entities.map model.recorderRequest)).Refuses
        (model.outputs.entities.map model.outputRequest ++
          model.nodes.entities.flatMap constraintRequests) e) : model.Fails plan e :=
    hfinal e (Plan.refuses_append_iff.mpr (Or.inr ⟨hrecorded, hrefused⟩))
  rcases outcome_of_follows model.follows_createOutputs
      (resolved.addAll (model.recorders.entities.map model.recorderRequest)) with
    ⟨hwritten, houtputs⟩ | ⟨_, _, houtputs, hrefused⟩
  swap
  · rw [outcome_bind_of_error houtputs] at h
    cases h
    exact hlater _ (Plan.refuses_append_iff.mpr (Or.inl hrefused))
  rw [outcome_bind_of_ok houtputs] at h
  rcases outcome_of_follows model.follows_applyConstraints
      ((resolved.addAll (model.recorders.entities.map model.recorderRequest)).addAll
        (model.outputs.entities.map model.outputRequest)) with
    ⟨-, hlimits⟩ | ⟨_, _, hlimits, hrefused⟩
  · rw [outcome_bind_of_ok hlimits] at h
    cases h
  · rw [outcome_bind_of_error hlimits] at h
    cases h
    exact hlater _ (Plan.refuses_append_iff.mpr (Or.inr ⟨hwritten, hrefused⟩))

/-- Whether the tables that the parameters of a model take their data from are declared. -/
def TablesDeclared (model : Model) : Prop :=
  ∀ frame, .dataFrame frame ∈ model.parameters.entities → frame.url = none →
    ∀ table, frame.table = some table → model.tables.contains table = true

theorem phase_of_mem_nodeRequests {model : Model} :
    ∀ request ∈ model.nodeRequests, request.phase = .nodes := by
  intro request hrequest
  rw [nodeRequests_eq, List.mem_append] at hrequest
  rcases hrequest with hsingle | hgroup
  · obtain ⟨name, kind, volume, rfl, -⟩ := exists_of_mem_singleRequests hsingle
    rfl
  · obtain ⟨group, -, rfl⟩ := List.mem_map.mp hgroup
    rfl

theorem phase_of_mem_edgeRequests {model : Model} :
    ∀ request ∈ model.edges.flatMap model.edgeRequests, request.phase = .edges := by
  intro request hrequest
  obtain ⟨edge, -, hrequest⟩ := List.mem_flatMap.mp hrequest
  obtain ⟨source, -, hrequest⟩ := List.mem_flatMap.mp hrequest
  obtain ⟨target, -, rfl⟩ := List.mem_map.mp hrequest
  rfl

theorem phase_of_mem_limitRequests {model : Model} :
    ∀ request ∈ model.nodes.entities.flatMap constraintRequests,
      request.phase = .constraints := by
  intro request hrequest
  obtain ⟨node, -, hrequest⟩ := List.mem_flatMap.mp hrequest
  rcases exists_of_mem_constraintRequests hrequest with ⟨_, _, rfl⟩ | ⟨_, _, _, rfl⟩
  · rfl
  · rfl

/-- What a phase of a build needs to hold of a model. -/
def Meets (model : Model) : BuildPhase → Prop
  | .nodes => model.StepsDistinct ∧ model.MembersSingle
  | .edges => ∀ edge ∈ model.edges, model.Attachable edge.source ∧ model.Attachable edge.target
  | .parameters =>
    model.TablesDeclared ∧ Closed model.parameters ∧ Acyclic model.parameters ∧
    ∀ p ∈ model.parameters.entities, ∀ node, p.Stores node →
      node ∈ model.engineNames ∨
        ∃ group, .aggregated group ∈ model.nodes.entities ∧ group.name = node
  | .recorders => ∀ recorder ∈ model.recorders.entities, model.Recordable recorder
  | .constraints => ∀ node ∈ model.nodes.entities, ∀ name, node.Holds (.parameter name) →
    model.parameters.contains name = true
  | _ => True

/-- How the build of a model breaks down in one of its phases: all that the phases before it need
is there, so the plan has what they create, and something that it needs itself is not. -/
inductive Breaks (model : Model) : BuildPhase → ModelError → Prop
  | nodes {e : ModelError} {solvers : List String} (lacking : ¬model.Meets .nodes)
      (refused : (Plan.new solvers).Refuses model.nodeRequests e) : Breaks model .nodes e
  | edges {e : ModelError} {plan : Plan} (laid : model.Meets .nodes)
      (lacking : ¬model.Meets .edges) (founded : Founded model plan)
      (refused : plan.Refuses (model.edges.flatMap model.edgeRequests) e) : Breaks model .edges e
  -- resolution stops for more reasons than a refusal, so that its whole outcome is given
  | parameters {e : ModelError} {plan stopped : Plan} (laid : model.Meets .nodes)
      (connected : model.Meets .edges) (lacking : ¬model.Meets .parameters)
      (founded : Founded model plan) (new : plan.parameters = [])
      (failed : outcome (Resolution.resolve Plan.engine model.specContext model.parameters) plan =
        (.error e, stopped)) : Breaks model .parameters e
  | recorders {e : ModelError} {plan : Plan} (laid : model.Meets .nodes)
      (connected : model.Meets .edges) (resolved : model.Meets .parameters)
      (lacking : ¬model.Meets .recorders) (founded : Founded model plan)
      (supplied : Supplied model plan) (new : plan.recorders = [])
      (refused : plan.Refuses (model.recorders.entities.map model.recorderRequest) e) :
      Breaks model .recorders e
  | constraints {e : ModelError} {plan : Plan} (laid : model.Meets .nodes)
      (connected : model.Meets .edges) (resolved : model.Meets .parameters)
      (recorded : model.Meets .recorders) (lacking : ¬model.Meets .constraints)
      (founded : Founded model plan) (supplied : Supplied model plan)
      (refused : plan.Refuses (model.nodes.entities.flatMap constraintRequests) e) :
      Breaks model .constraints e

variable {model : Model} {e : ModelError}

/-- What comes after the parameters of a valid model breaks down at its recorders, or its costs and
bounds: outputs are always granted. -/
theorem breaks_of_final (hvalid : model.Valid) (hlaid : model.Meets .nodes)
    (hconnected : model.Meets .edges) (hresolved : model.Meets .parameters) {plan : Plan}
    (h : Founded model plan) (hsupplied : Supplied model plan) (hrecorders : plan.recorders = [])
    (houtputs : plan.outputs = []) (hrefused : plan.Refuses model.finalRequests e) :
    ∃ phase, model.Breaks phase e := by
  -- recorders, outputs and limits come in this order, and outputs are never refused
  have hrecorded (hadmits : plan.Admits (model.recorders.entities.map model.recorderRequest)) :
      model.Meets .recorders :=
    (admits_recorderRequests_iff hvalid h hsupplied hrecorders).mp hadmits
  rcases Plan.refuses_append_iff.mp hrefused with hfirst | ⟨hadmits, hrest⟩
  · refine ⟨.recorders, .recorders hlaid hconnected hresolved (fun hmeets => ?_) h hsupplied
      hrecorders hfirst⟩
    exact hfirst.not_admits
      ((admits_recorderRequests_iff hvalid h hsupplied hrecorders).mpr hmeets)
  obtain ⟨hfounded, hstill⟩ := founded_and_supplied_addAll h hsupplied
    (List.forall_mem_map.mpr fun recorder (_ : recorder ∈ model.recorders.entities) =>
      (rfl : (model.recorderRequest recorder).node? = none))
    (List.forall_mem_map.mpr fun _ _ => rfl)
  -- recorders are no outputs, so no output is there when the first one is created
  have hnew : (plan.addAll (model.recorders.entities.map model.recorderRequest)).outputs = [] := by
    rw [Plan.outputs_addAll, houtputs, List.nil_append, List.filterMap_eq_nil_iff]
    exact List.forall_mem_map.mpr fun _ _ => rfl
  rcases Plan.refuses_append_iff.mp hrest with houtput | ⟨-, hlimits⟩
  · exact absurd (admits_outputRequests model hnew) houtput.not_admits
  obtain ⟨hfounded', hstill'⟩ := founded_and_supplied_addAll hfounded hstill
    (List.forall_mem_map.mpr fun output (_ : output ∈ model.outputs.entities) =>
      (rfl : (model.outputRequest output).node? = none))
    (List.forall_mem_map.mpr fun _ _ => rfl)
  refine ⟨.constraints, .constraints hlaid hconnected hresolved (hrecorded hadmits)
    (fun hmeets => ?_) hfounded' hstill' hlimits⟩
  exact hlimits.not_admits ((admits_constraintRequests_iff hfounded' hstill').mpr hmeets)

/-- The build of a valid model on a new plan fails by breaking down in one of its phases. -/
theorem Fails.exists_breaks (hvalid : model.Valid) {solvers : List String}
    (h : model.Fails (Plan.new solvers) e) : ∃ phase, model.Breaks phase e := by
  obtain ⟨hnodes, hparameters, hrecorders, houtputs⟩ := declared_before_parameters model solvers
  have hmet (hadmits : (Plan.new solvers).Admits model.nodeRequests) : model.Meets .nodes :=
    (admits_nodeRequests_iff hvalid solvers).mp hadmits
  have hfounded (hlaid : model.Meets .nodes) :
      Founded model ((Plan.new solvers).addAll model.nodeRequests) :=
    Founded.of_nodeRequests hlaid.1 rfl
  -- in each phase, what the phases before demand has been met, or they had refused something
  cases h with
  | nodes refused =>
    refine ⟨.nodes, .nodes (fun hmeets => ?_) refused⟩
    exact refused.not_admits ((admits_nodeRequests_iff hvalid solvers).mpr hmeets)
  | edges laid refused =>
    have hlaid := hmet laid
    refine ⟨.edges, .edges hlaid (fun hmeets => ?_) (hfounded hlaid) refused⟩
    exact refused.not_admits ((admits_edgeRequests_iff hvalid (hfounded hlaid)).mpr hmeets)
  | parameters laid connected failed =>
    have hlaid := hmet laid
    have hconnected := (hfounded hlaid).of_nodes_eq hnodes
    have hends := (admits_edgeRequests_iff hvalid (hfounded hlaid)).mp connected
    refine ⟨.parameters, .parameters hlaid hends (fun hmeets => ?_) hconnected hparameters failed⟩
    obtain ⟨resolution, final, hresolve⟩ :=
      (resolve_succeeds_iff_of_founded hvalid hconnected hparameters).mpr hmeets
    rw [hresolve] at failed
    cases failed
  | final laid connected created refused =>
    have hlaid := hmet laid
    have hconnected := (hfounded hlaid).of_nodes_eq hnodes
    have hends := (admits_edgeRequests_iff hvalid (hfounded hlaid)).mp connected
    have hresolved := (resolve_succeeds_iff_of_founded hvalid hconnected hparameters).mp
      ⟨_, _, created⟩
    obtain ⟨hsame, hrecorders', houtputs', hsupplied⟩ :=
      Resolution.plan_of_resolve_ok hparameters created
    exact breaks_of_final hvalid hlaid hends hresolved (hconnected.of_nodes_eq hsame) hsupplied
      (hrecorders'.trans hrecorders) (houtputs'.trans houtputs) refused

end Model

end FlowPlan
