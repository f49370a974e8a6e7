import FlowPlan.Proofs.Alike
import FlowPlan.Proofs.Compilation

namespace FlowPlan

namespace Call

def phase : Call → BuildPhase
  | addNode _ _ _ => .nodes
  | addAggregatedNode _ _ _ => .nodes
  | connect _ _ => .edges
  | setCost _ _ => .constraints
  | setBound _ _ _ => .constraints
  | createParameter _ _ => .parameters
  | createRecorder _ _ => .recorders
  | createOutput _ _ _ => .outputs
  | run _ _ _ _ => .run

/-- Whether two logs go through the same phases, call by call, and have the same calls in each of
them, in some order. -/
structure Phasewise (xs ys : List Call) : Prop where
  phases : xs.map phase = ys.map phase
  perm : ∀ stage, (xs.filter fun call => call.phase = stage).Perm
    (ys.filter fun call => call.phase = stage)

namespace Phasewise

variable {xs ys xs' ys' : List Call}

/-- Calls of one phase may stand in any order. -/
theorem of_perm {stage : BuildPhase} (h : xs.Perm ys) (hphase : ∀ call ∈ xs, call.phase = stage) :
    Phasewise xs ys where
  phases := by
    have hphase' : ∀ call ∈ ys, call.phase = stage := fun call hcall =>
      hphase call (h.mem_iff.mpr hcall)
    rw [List.map_eq_replicate_iff.mpr hphase, List.map_eq_replicate_iff.mpr hphase', h.length_eq]
  perm := fun _ => h.filter _

/-- What goes phase by phase in two parts does so in both together. -/
theorem append (h : Phasewise xs ys) (h' : Phasewise xs' ys') :
    Phasewise (xs ++ xs') (ys ++ ys') where
  phases := by rw [List.map_append, List.map_append, h.phases, h'.phases]
  perm := by
    intro stage
    rw [List.filter_append, List.filter_append]
    exact (h.perm stage).append (h'.perm stage)

end Phasewise

theorem phase_ofRequest (request : Request) : (ofRequest request).phase = request.phase := by
  cases request with
  | _ => rfl

/-- The same requests of one phase in two orders make for the same calls. -/
theorem Phasewise.of_requests {requests requests' : List Request} {stage : BuildPhase}
    (h : requests.Perm requests') (hphase : ∀ request ∈ requests, request.phase = stage) :
    Phasewise (requests.map ofRequest) (requests'.map ofRequest) := by
  apply Phasewise.of_perm (h.map ofRequest)
  intro call hcall
  obtain ⟨request, hrequest, rfl⟩ := List.mem_map.mp hcall
  rw [phase_ofRequest]
  exact hphase request hrequest

end Call

namespace Model

open Build Call Resolution

variable {model first second : Model}

/-- A build that comes to its end has created each parameter of the model, after its network and
before all else. -/
theorem exists_created_of_build {plan final : Plan} {report : BuildReport}
    (hbuild : outcome (model.build Plan.engine) plan = (.ok report, final)) :
    ∃ created : List Pending, (created.map Pending.parameter).Perm model.parameters.entities ∧
      final.calls = plan.calls ++ (model.networkRequests.map ofRequest ++
        ((created.map Pending.request).map ofRequest ++ model.finalRequests.map ofRequest)) := by
  obtain ⟨created, hperm, rfl⟩ := exists_addAll_of_build hbuild
  refine ⟨created, hperm, ?_⟩
  rw [Plan.calls_addAll, List.map_append, List.map_append]

namespace Rearranged

theorem edgeRequests_eq (h : first.Rearranged second) :
    first.edgeRequests = second.edgeRequests := by
  unfold edgeRequests
  rw [h.connectors_eq]

theorem recorderRequest_eq (h : first.Rearranged second) :
    first.recorderRequest = second.recorderRequest := by
  unfold recorderRequest recorderSpec
  rw [h.connectors_eq]

/-- What an engine needs for an output does not depend on the tables of the model. -/
theorem outputRequest_eq (h : first.Rearranged second) :
    first.outputRequest = second.outputRequest := by
  unfold outputRequest Output.spec SpecContext.resolvePath specContext
  rw [h.path_eq]

/-- Nodes and edges are asked for phase by phase, in any order of the declarations. -/
theorem phasewise_networkRequests (h : first.Rearranged second) :
    Phasewise (first.networkRequests.map ofRequest) (second.networkRequests.map ofRequest) := by
  have hnodes : first.nodeRequests.Perm second.nodeRequests :=
    (h.nodes.flatMap_right _).append (h.nodes.flatMap_right _)
  have hedges : (first.edges.flatMap first.edgeRequests).Perm
      (second.edges.flatMap second.edgeRequests) := by
    rw [h.edgeRequests_eq]
    exact h.edges.flatMap_right _
  unfold networkRequests
  rw [List.map_append, List.map_append]
  apply Phasewise.append
  · exact .of_requests hnodes phase_of_mem_nodeRequests
  · exact .of_requests hedges phase_of_mem_edgeRequests

/-- So are recorders, outputs, and costs and bounds. -/
theorem phasewise_finalRequests (h : first.Rearranged second) :
    Phasewise (first.finalRequests.map ofRequest) (second.finalRequests.map ofRequest) := by
  have hrecorders : (first.recorders.entities.map first.recorderRequest).Perm
      (second.recorders.entities.map second.recorderRequest) := by
    rw [h.recorderRequest_eq]
    exact h.recorders.map _
  have houtputs : (first.outputs.entities.map first.outputRequest).Perm
      (second.outputs.entities.map second.outputRequest) := by
    rw [h.outputRequest_eq]
    exact h.outputs.map _
  have hlimits : (first.nodes.entities.flatMap constraintRequests).Perm
      (second.nodes.entities.flatMap constraintRequests) := h.nodes.flatMap_right _
  unfold finalRequests
  rw [List.map_append, List.map_append, List.map_append, List.map_append]
  apply Phasewise.append
  · exact .of_requests hrecorders (List.forall_mem_map.mpr fun _ _ => rfl)
  apply Phasewise.append
  · exact .of_requests houtputs (List.forall_mem_map.mpr fun _ _ => rfl)
  · exact .of_requests hlimits phase_of_mem_limitRequests

/-- Models that declare the same build the same, phase by phase. -/
theorem phasewise_of_build (h : first.Rearranged second) {solvers solvers' : List String}
    {report report' : BuildReport} {final final' : Plan}
    (hfirst : outcome (first.build Plan.engine) (Plan.new solvers) = (.ok report, final))
    (hsecond : outcome (second.build Plan.engine) (Plan.new solvers') = (.ok report', final')) :
    Phasewise final.calls final'.calls := by
  obtain ⟨created, hcreated, hcalls⟩ := exists_created_of_build hfirst
  obtain ⟨created', hcreated', hcalls'⟩ := exists_created_of_build hsecond
  -- the specifications of parameters do not show in the calls
  let call (p : Parameter) : Call := createParameter p.name p.typeName
  have hcall (created : List Pending) :
      (created.map Pending.request).map ofRequest = (created.map Pending.parameter).map call := by
    rw [List.map_map, List.map_map]
    rfl
  have hparameters : ((created.map Pending.parameter).map call).Perm
      ((created'.map Pending.parameter).map call) :=
    (hcreated.trans (h.parameters.trans hcreated'.symm)).map call
  have hphase : ∀ c ∈ (created.map Pending.parameter).map call, c.phase = .parameters :=
    List.forall_mem_map.mpr fun _ _ => rfl
  have hlater := (Phasewise.of_perm hparameters hphase).append h.phasewise_finalRequests
  rw [hcalls, hcalls', hcall, hcall]
  exact h.phasewise_networkRequests.append hlater

end Rearranged

/-- Whether two builds end alike: both come to their end, with the same calls phase by phase, or
both fail with errors of one kind. -/
inductive EndAlike : Except ModelError BuildReport × Plan → Except ModelError BuildReport × Plan →
    Prop
  | built {report report' : BuildReport} {final final' : Plan}
      (phasewise : Phasewise final.calls final'.calls) :
      EndAlike (.ok report, final) (.ok report', final')
  | failed {e e' : ModelError} {final final' : Plan} (alike : e.Alike e') :
      EndAlike (.error e, final) (.error e', final')

/-- What can be built has all that every phase needs. -/
theorem Buildable.meets (h : model.Buildable) (phase : BuildPhase) : model.Meets phase := by
  cases phase with
  | nodes => exact ⟨h.steps_distinct, h.members_single⟩
  | edges => exact h.edges_attachable
  | parameters =>
    exact ⟨h.tables_declared, h.references_declared, h.references_acyclic, h.nodes_known⟩
  | recorders => exact h.recordable
  | constraints => exact h.limits_declared
  | outputs => trivial
  | run => trivial

/-- A model that can be built declares nothing that breaks down in another order. -/
theorem Rearranged.not_breaks (h : first.Rearranged second) (hvalid : first.Valid)
    {solvers : List String} {report : BuildReport} {final : Plan}
    (hfirst : outcome (first.build Plan.engine) (Plan.new solvers) = (.ok report, final))
    {phase : BuildPhase} {e : ModelError} : ¬second.Breaks phase e := by
  intro hbreaks
  have hsucceeds : Succeeds (first.build Plan.engine) (Plan.new solvers) :=
    ⟨report, congrArg Prod.fst hfirst⟩
  have hbuildable := (succeeds_build_iff_of_valid hvalid solvers).mp hsucceeds
  exact hbreaks.lacking ((h.meets_iff phase).mp (hbuildable.meets phase))

/-- Two loaded models that declare the same, each section in an order of its own, end alike when
they are built on new plans. Their paths may have been set after they were loaded. -/
theorem build_rearranged {strictness strictness' : Strictness} {document document' : Document}
    (hload : load? strictness document = .ok { first with path := none })
    (hload' : load? strictness' document' = .ok { second with path := none })
    (h : first.Rearranged second) (solvers solvers' : List String) :
    EndAlike (outcome (first.build Plan.engine) (Plan.new solvers))
      (outcome (second.build Plan.engine) (Plan.new solvers')) := by
  -- validity is a matter of the sections, so the path of the model plays no part
  have hvalid : first.Valid := ⟨(valid_of_load? hload).nodes, (valid_of_load? hload).parameters⟩
  have hvalid' : second.Valid :=
    ⟨(valid_of_load? hload').nodes, (valid_of_load? hload').parameters⟩
  -- a build that breaks lacks what some phase demands, and so does the other one then
  rcases hfirst : outcome (first.build Plan.engine) (Plan.new solvers) with ⟨e | report, final⟩
  · obtain ⟨phase, hbreaks⟩ := (fails_of_build hfirst).exists_breaks hvalid
    rcases hsecond : outcome (second.build Plan.engine) (Plan.new solvers') with
      ⟨e' | report', final'⟩
    · obtain ⟨phase', hbreaks'⟩ := (fails_of_build hsecond).exists_breaks hvalid'
      exact .failed (hbreaks.alike h hvalid hvalid' hbreaks')
    · exact absurd hbreaks (h.symm.not_breaks hvalid' hsecond)
  · rcases hsecond : outcome (second.build Plan.engine) (Plan.new solvers') with
      ⟨e' | report', final'⟩
    · obtain ⟨phase', hbreaks'⟩ := (fails_of_build hsecond).exists_breaks hvalid'
      exact absurd hbreaks' (h.not_breaks hvalid hfirst)
    · exact .built (h.phasewise_of_build hfirst hsecond)

def reversed : Document → Document
  | .mapping fields => .mapping (fields.map fun (key, document) =>
      match document with
      | .sequence items => (key, .sequence items.reverse)
      | other => (key, other))
  | other => other

instance (first second : Model) : Decidable (first.Rearranged second) :=
  decidable_of_iff
    (first.timestepper = second.timestepper ∧ first.path = second.path ∧
      first.nodes.entities.Perm second.nodes.entities ∧ first.edges.Perm second.edges ∧
      first.parameters.entities.Perm second.parameters.entities ∧
      first.recorders.entities.Perm second.recorders.entities ∧
      first.tables.entities.Perm second.tables.entities ∧
      first.outputs.entities.Perm second.outputs.entities)
    ⟨fun ⟨h₁, h₂, h₃, h₄, h₅, h₆, h₇, h₈⟩ => ⟨h₁, h₂, h₃, h₄, h₅, h₆, h₇, h₈⟩,
      fun ⟨h₁, h₂, h₃, h₄, h₅, h₆, h₇, h₈⟩ => ⟨h₁, h₂, h₃, h₄, h₅, h₆, h₇, h₈⟩⟩

theorem build_rearranged_canal :
    ∃ first second : Model, load? .strict canal = .ok { first with path := none } ∧
      load? .strict (reversed canal) = .ok { second with path := none } ∧
      first.Rearranged second ∧
      EndAlike (outcome (first.build Plan.engine) (Plan.new []))
        (outcome (second.build Plan.engine) (Plan.new [])) := by
  have hreversed : ((load? .strict canal).toOption.bind fun first =>
      (load? .strict (reversed canal)).toOption.map fun second =>
        decide (first.path = none ∧ second.path = none ∧ first.Rearranged second)) =
          some true := by decide +kernel
  obtain ⟨first, hload, hreversed⟩ := bind_toOption_eq_some_iff.mp hreversed
  obtain ⟨second, hload', hreversed⟩ := map_toOption_eq_some_iff.mp hreversed
  obtain ⟨hpath, hpath', hrearranged⟩ := of_decide_eq_true hreversed
  have hfirst : first = { first with path := none } := by rw [← hpath]
  have hsecond : second = { second with path := none } := by rw [← hpath']
  rw [hfirst] at hload
  rw [hsecond] at hload'
  have halike := build_rearranged hload hload' hrearranged [] []
  exact ⟨first, second, hload, hload', hrearranged, halike⟩

end Model

end FlowPlan
