import FlowPlan.Proofs.Build
import FlowPlan.Proofs.Compilation
import FlowPlan.Proofs.Failure

namespace FlowPlan

namespace Plan

variable {plan : Plan} {name : String}

theorem check_createParameter_of_taken (h : name ∈ plan.parameterNames) (type : String)
    (spec : ComponentSpec) :
    plan.check (.createParameter name type spec) = .error (.duplicateName "parameter" name) :=
  bind_eq_error_iff.mpr (.inl (requireNew_eq_error_iff.mpr ⟨h, rfl⟩))

theorem check_createOutput_of_taken (h : name ∈ plan.outputs.map Prod.fst) (type : String)
    (spec : ComponentSpec) :
    plan.check (.createOutput name type spec) = .error (.duplicateName "output" name) :=
  requireNew_eq_error_iff.mpr ⟨h, rfl⟩

end Plan

namespace Resolution

/-- A resolution that starts with a parameter that is there already goes no further. -/
theorem outcome_resolve_of_taken {context : SpecContext} {parameters : Collection Parameter}
    {first : Pending} {rest : List Pending} {plan : Plan}
    (hspecs : specs context parameters = .ok (first :: rest))
    (htaken : first.name ∈ plan.parameterNames) :
    Build.outcome (resolve Plan.engine context parameters) plan =
      (.error (.engine .parameters first.name (.duplicateName "parameter" first.name)), plan) := by
  -- a name that is taken is refused for good, so the first round ends at once
  have hanswer : Plan.engine.answer first.request plan =
      (.error (.duplicateName "parameter" first.name), plan) := by
    change plan.answer first.request = _
    have hcheck : plan.check first.request = .error (.duplicateName "parameter" first.name) :=
      Plan.check_createParameter_of_taken htaken _ _
    rw [Plan.answer, hcheck]
  have hother (name missing : String) : EngineError.duplicateName "parameter" first.name ≠
      .dependencyNotFound name missing := fun hsame => by cases hsame
  rw [outcome_resolve_of_specs hspecs, outcome_runRounds (List.cons_ne_nil _ _),
    outcome_offer_of_refused hother hanswer]

end Resolution

namespace Model

open Build

variable {model : Model} {plan final : Plan}

/-- The phase in which a build puts its first request. -/
def firstPhase (model : Model) : BuildPhase :=
  if model.nodes.entities ≠ [] then .nodes
  else if model.parameters.entities ≠ [] then .parameters
  else .outputs

/-- A node is refused for its own name, before anything else is asked of it. -/
theorem check_nodeRequest_of_taken {request : Request} (hrequest : request ∈ model.nodeRequests)
    (htaken : request.declared ∈ plan.nodes.map Prod.fst) :
    plan.check request = .error (.duplicateName "node" request.declared) := by
  have hnew : plan.requireNewNode request.declared =
      .error (.duplicateName "node" request.declared) :=
    Plan.requireNewNode_eq_error_iff.mpr ⟨htaken, rfl⟩
  rw [nodeRequests_eq, List.mem_append] at hrequest
  rcases hrequest with hsingle | hgroup
  · obtain ⟨name, kind, volume, rfl, hkind⟩ := exists_of_mem_singleRequests hsingle
    exact refusal_eq_error_iff.mpr (.inr ⟨hkind, hnew⟩)
  · obtain ⟨group, -, rfl⟩ := List.mem_map.mp hgroup
    exact bind_eq_error_iff.mpr (.inl hnew)

theorem node?_of_mem_nodeRequests {request : Request} (h : request ∈ model.nodeRequests) :
    ∃ kind, request.node? = some (request.declared, kind) := by
  rw [nodeRequests_eq, List.mem_append] at h
  rcases h with hsingle | hgroup
  · obtain ⟨name, kind, volume, rfl, -⟩ := exists_of_mem_singleRequests hsingle
    exact ⟨kind, rfl⟩
  · obtain ⟨group, -, rfl⟩ := List.mem_map.mp hgroup
    exact ⟨.aggregated, rfl⟩

/-- Each node of a valid model is created by some request. -/
theorem nodeRequests_ne_nil (hvalid : model.Valid) (hnodes : model.nodes.entities ≠ []) :
    model.nodeRequests ≠ [] := by
  obtain ⟨node, hnode⟩ := List.exists_mem_of_ne_nil _ hnodes
  -- a group asks for itself, and any other node for at least one engine node
  by_cases hkind : node.kind = .aggregated
  · cases node with
    | aggregated group =>
      have hrequest : group.request ∈ model.nodeRequests := by
        rw [nodeRequests_eq]
        exact List.mem_append_right _ (List.mem_map_of_mem (mem_groups.mpr hnode))
      exact List.ne_nil_of_mem hrequest
    | _ => cases hkind
  · have hconnectors := connectors_ne_nil hvalid node.name
    rw [connectors_of_mem hnode, Node.connectors_eq_engineNames hkind,
      ← Node.map_fst_engineNodes] at hconnectors
    obtain ⟨name, hname⟩ := List.exists_mem_of_ne_nil _ hconnectors
    obtain ⟨entry, hentry, -⟩ := List.mem_map.mp hname
    have hrequest : Request.addNode entry.1 entry.2 node.initialVolume ∈ model.nodeRequests :=
      List.mem_append_left _ (List.mem_flatMap.mpr ⟨node, hnode, List.mem_map_of_mem hentry⟩)
    exact List.ne_nil_of_mem hrequest

/-- What a build has created is there at its end. -/
theorem names_of_build {report : BuildReport}
    (hbuild : outcome (model.build Plan.engine) plan = (.ok report, final)) :
    (∀ request ∈ model.nodeRequests, request.declared ∈ final.nodes.map Prod.fst) ∧
      (∀ p ∈ model.parameters.entities, p.name ∈ final.parameterNames) ∧
      ∀ output ∈ model.outputs.entities, output.name ∈ final.outputs.map Prod.fst := by
  obtain ⟨created, hperm, rfl⟩ := exists_addAll_of_build hbuild
  -- whatever a request of the build declares is among the entries of the plan
  have hadded {β : Type} {declares : Request → Option (String × β)} {request : Request}
      {entry : String × β} (hentry : declares request = some entry)
      (hmem : request ∈ model.networkRequests ++
        (created.map Resolution.Pending.request ++ model.finalRequests))
      (before : List (String × β)) :
      entry.1 ∈ (before ++ (model.networkRequests ++
        (created.map Resolution.Pending.request ++ model.finalRequests)).filterMap
          declares).map Prod.fst :=
    List.mem_map_of_mem (List.mem_append_right _ (List.mem_filterMap.mpr ⟨_, hmem, hentry⟩))
  refine ⟨fun request hrequest => ?_, fun p hp => ?_, fun output houtput => ?_⟩
  · obtain ⟨kind, hkind⟩ := node?_of_mem_nodeRequests hrequest
    rw [Plan.nodes_addAll]
    exact hadded hkind (List.mem_append_left _ (List.mem_append_left _ hrequest)) _
  · obtain ⟨pending, hpending, rfl⟩ := List.mem_map.mp (hperm.symm.subset hp)
    have hcreated : pending.request ∈ created.map Resolution.Pending.request ++
        model.finalRequests := List.mem_append_left _ (List.mem_map_of_mem hpending)
    have hdeclares : pending.request.parameter? =
        some (pending.parameter.name, pending.parameter.typeName) := rfl
    rw [Plan.parameterNames, Plan.parameters_addAll]
    exact hadded hdeclares (List.mem_append_right _ hcreated) _
  · have hlater : model.outputRequest output ∈ model.finalRequests :=
      List.mem_append_right _ (List.mem_append_left _ (List.mem_map_of_mem houtput))
    have hdeclares : (model.outputRequest output).output? =
        some (output.name, output.typeName) := rfl
    rw [Plan.outputs_addAll]
    exact hadded hdeclares (List.mem_append_right _ (List.mem_append_right _ hlater)) _

section

variable (h : model.Buildable) (hnodes : model.nodes.entities = [])

include h hnodes

/-- Where a model has no nodes, there is nothing to connect. -/
theorem Buildable.edges_eq_nil : model.edges = [] := by
  refine List.eq_nil_iff_forall_not_mem.mpr fun edge hedge => ?_
  have hnone (node : Node) : node ∉ model.nodes.entities := hnodes ▸ List.not_mem_nil
  rcases (h.edges_attachable edge hedge).1 with ⟨node, hnode, -⟩ | ⟨-, hname⟩
  · exact hnone node hnode
  · obtain ⟨node, hnode, -⟩ := mem_engineNames.mp hname
    exact hnone node hnode

/-- Where a model has neither nodes nor parameters, there is nothing to record. -/
theorem Buildable.recorders_eq_nil (hparameters : model.parameters.entities = []) :
    model.recorders.entities = [] := by
  refine List.eq_nil_iff_forall_not_mem.mpr fun recorder hrecorder => ?_
  have hnone (node : Node) : node ∉ model.nodes.entities := hnodes ▸ List.not_mem_nil
  have hrecordable := h.recordable recorder hrecorder
  -- whatever a recorder watches, there is none of it
  cases recorder with
  | nodeFlow recorder =>
    rcases hrecordable with hcontains | hname
    · obtain ⟨node, hnode, -⟩ := Collection.contains_iff.mp hcontains
      exact hnone node hnode
    · obtain ⟨node, hnode, -⟩ := mem_engineNames.mp hname
      exact hnone node hnode
  | storageVolume recorder =>
    obtain ⟨storage, hstorage, -⟩ := hrecordable
    exact hnone _ hstorage
  | parameter recorder =>
    obtain ⟨p, hp, -⟩ := Collection.contains_iff.mp hrecordable
    rw [hparameters] at hp
    cases hp

end

/-- A part of a build that asks for nothing does nothing. -/
theorem outcome_of_no_requests {build : Build Plan Unit} {requests : List Request}
    (h : Demands build requests) (hnone : requests = []) (plan : Plan) :
    outcome build plan = (.ok (), plan) := by
  subst hnone
  exact h.granted plan trivial

/-- The build of a model without nodes starts with its parameters. -/
theorem outcome_network_of_no_nodes (h : model.Buildable) (hnodes : model.nodes.entities = [])
    (plan : Plan) :
    outcome (model.createNodes Plan.engine) plan = (.ok (), plan) ∧
      outcome (model.createEdges Plan.engine) plan = (.ok (), plan) := by
  have hnodeRequests : model.nodeRequests = [] := by
    rw [nodeRequests, hnodes]
    rfl
  have hedgeRequests : model.edges.flatMap model.edgeRequests = [] := by
    rw [h.edges_eq_nil hnodes]
    rfl
  exact ⟨outcome_of_no_requests model.demands_createNodes hnodeRequests plan,
    outcome_of_no_requests model.demands_createEdges hedgeRequests plan⟩

/-- Where a model has nodes, the first engine node is refused. -/
theorem build_again_nodes (hvalid : model.Valid) (hnodes : model.nodes.entities ≠ [])
    (htaken : ∀ request ∈ model.nodeRequests, request.declared ∈ plan.nodes.map Prod.fst) :
    ∃ entity name, outcome (model.build Plan.engine) plan =
      (.error (.engine .nodes entity (.duplicateName "node" name)), plan) := by
  obtain ⟨first, rest, hrequests⟩ :=
    List.exists_cons_of_ne_nil (nodeRequests_ne_nil hvalid hnodes)
  have hfirst : first ∈ model.nodeRequests := hrequests ▸ List.mem_cons_self
  obtain ⟨entity, hrefused⟩ := outcome_of_first_refused (hrequests ▸ model.follows_createNodes)
    (check_nodeRequest_of_taken hfirst (htaken first hfirst))
  rw [phase_of_mem_nodeRequests first hfirst] at hrefused
  exact ⟨entity, first.declared, outcome_bind_of_error hrefused _⟩

/-- Where a model has parameters but no nodes, the first parameter is refused. -/
theorem build_again_parameters (hvalid : model.Valid) (h : model.Buildable)
    (hnodes : model.nodes.entities = []) (hparameters : model.parameters.entities ≠ [])
    (htaken : ∀ p ∈ model.parameters.entities, p.name ∈ plan.parameterNames) :
    ∃ name, outcome (model.build Plan.engine) plan =
      (.error (.engine .parameters name (.duplicateName "parameter" name)), plan) := by
  obtain ⟨all, hall⟩ := Resolution.exists_specs_iff.mpr
    ((forall_exists_spec_iff hvalid).mpr h.tables_declared)
  have hentities := (Resolution.prepared_of_specs hall).parameters
  cases all with
  | nil => exact absurd hentities.symm hparameters
  | cons first rest =>
    have hmem : first.parameter ∈ model.parameters.entities := by
      rw [← hentities]
      exact List.mem_cons_self
    obtain ⟨hcreateNodes, hcreateEdges⟩ := outcome_network_of_no_nodes h hnodes plan
    have hresolve := Resolution.outcome_resolve_of_taken hall (htaken _ hmem)
    refine ⟨first.name, ?_⟩
    unfold build
    rw [outcome_bind_of_ok hcreateNodes, outcome_bind_of_ok hcreateEdges,
      outcome_bind_of_error hresolve]

/-- Where a model has nothing but outputs, the first output is refused. -/
theorem build_again_outputs (h : model.Buildable) (hnodes : model.nodes.entities = [])
    (hparameters : model.parameters.entities = []) (houtputs : model.outputs.entities ≠ [])
    (htaken : ∀ output ∈ model.outputs.entities, output.name ∈ plan.outputs.map Prod.fst) :
    ∃ entity name, outcome (model.build Plan.engine) plan =
      (.error (.engine .outputs entity (.duplicateName "output" name)), plan) := by
  obtain ⟨first, rest, hentities⟩ := List.exists_cons_of_ne_nil houtputs
  have hfirst : first ∈ model.outputs.entities := hentities ▸ List.mem_cons_self
  -- without nodes and parameters, nothing can be joined or recorded: outputs are asked for first
  obtain ⟨hcreateNodes, hcreateEdges⟩ := outcome_network_of_no_nodes h hnodes plan
  have hspecs : Resolution.specs model.specContext model.parameters = .ok [] := by
    rw [Resolution.specs, hparameters]
    rfl
  have hresolve : outcome (Resolution.resolve Plan.engine model.specContext model.parameters)
      plan = (.ok { rounds := 0, order := [] }, plan) := by
    rw [Resolution.outcome_resolve_of_specs hspecs, Resolution.outcome_runRounds_nil]
  have hcreateRecorders : outcome (model.createRecorders Plan.engine) plan = (.ok (), plan) := by
    refine outcome_of_no_requests model.demands_createRecorders ?_ plan
    rw [h.recorders_eq_nil hnodes hparameters]
    rfl
  have hfollows := model.follows_createOutputs
  rw [hentities] at hfollows
  obtain ⟨entity, hrefused⟩ := outcome_of_first_refused hfollows
    (Plan.check_createOutput_of_taken (htaken first hfirst) _ _)
  refine ⟨entity, first.name, ?_⟩
  unfold build
  rw [outcome_bind_of_ok hcreateNodes, outcome_bind_of_ok hcreateEdges,
    outcome_bind_of_ok hresolve, outcome_note_bind, outcome_bind_of_ok hcreateRecorders,
    outcome_bind_of_error hrefused]
  rfl

/-- A build that is repeated on the plan that it has made is refused at its first request, and
leaves the plan as it is. -/
theorem build_again_refused {strictness : Strictness} {document : Document}
    (hload : load? strictness document = .ok model)
    (hsome : model.nodes.entities ≠ [] ∨ model.parameters.entities ≠ [] ∨
      model.outputs.entities ≠ []) {solvers : List String} {report : BuildReport}
    (hbuild : outcome (model.build Plan.engine) (Plan.new solvers) = (.ok report, final)) :
    ∃ entity kind name, outcome (model.build Plan.engine) final =
      (.error (.engine model.firstPhase entity (.duplicateName kind name)), final) := by
  have hvalid := valid_of_load? hload
  have hbuildable : model.Buildable :=
    (succeeds_build_iff_of_valid hvalid solvers).mp ⟨report, congrArg Prod.fst hbuild⟩
  obtain ⟨hnode, hparameter, houtput⟩ := names_of_build hbuild
  unfold firstPhase
  -- the first request of all is for a node, or for a parameter, or for an output
  by_cases hnodes : model.nodes.entities = []
  · rw [if_neg (not_not.mpr hnodes)]
    by_cases hparameters : model.parameters.entities = []
    · have houtputs := (hsome.resolve_left (not_not.mpr hnodes)).resolve_left
        (not_not.mpr hparameters)
      rw [if_neg (not_not.mpr hparameters)]
      obtain ⟨entity, name, hrefused⟩ :=
        build_again_outputs hbuildable hnodes hparameters houtputs houtput
      exact ⟨entity, _, name, hrefused⟩
    · rw [if_pos hparameters]
      obtain ⟨name, hrefused⟩ :=
        build_again_parameters hvalid hbuildable hnodes hparameters hparameter
      exact ⟨_, _, name, hrefused⟩
  · rw [if_pos hnodes]
    obtain ⟨entity, name, hrefused⟩ := build_again_nodes hvalid hnodes hnode
    exact ⟨entity, _, name, hrefused⟩

theorem build_again_refused_canal :
    ∃ model report final, load? .strict canal = .ok model ∧
      outcome (model.build Plan.engine) (Plan.new []) = (.ok report, final) ∧
      ∃ entity kind name, outcome (model.build Plan.engine) final =
        (.error (.engine .nodes entity (.duplicateName kind name)), final) := by
  have hbuilt : ((load? .strict canal).toOption.bind fun model =>
      match outcome (model.build Plan.engine) (Plan.new []) with
      | (.ok _, _) => some model.nodes.entities.isEmpty
      | (.error _, _) => none) = some false := by decide +kernel
  obtain ⟨model, hload, hend⟩ := bind_toOption_eq_some_iff.mp hbuilt
  split at hend
  · rename_i report final hbuild
    have hnodes : model.nodes.entities ≠ [] :=
      List.isEmpty_eq_false_iff.mp (Option.some.inj hend)
    have hphase : model.firstPhase = .nodes := if_pos hnodes
    have hrefused := build_again_refused hload (.inl hnodes) hbuild
    rw [hphase] at hrefused
    exact ⟨model, report, final, hload, hbuild, hrefused⟩
  · cases hend

end Model

end FlowPlan
