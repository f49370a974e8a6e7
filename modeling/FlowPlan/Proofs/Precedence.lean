import FlowPlan.Proofs.Compilation
import FlowPlan.Proofs.Ledger
import FlowPlan.Proofs.Protocol

namespace FlowPlan

open Call

namespace Model

variable {model : Model}

/-- Whether what a recorder watches is created by some calls: a parameter, or all engine nodes that
the name of its node stands for. -/
def Watchable (model : Model) (calls : List Call) : Recorder → Prop
  | .nodeFlow recorder =>
    ∀ name ∈ model.standIns recorder.node, ∃ kind, HasNode calls name kind
  | .storageVolume recorder =>
    ∀ name ∈ model.standIns recorder.node, HasNode calls name .storage
  | .parameter recorder => HasParameter calls recorder.parameter

/-- Whether a call belongs to an entry of a model, and all that the entry names is created by
earlier calls. -/
def Grounded (model : Model) (earlier : List Call) : Call → Prop
  | createParameter name type => ∃ p ∈ model.parameters.entities,
      p.name = name ∧ p.typeName = type ∧ (∀ read, p.Names read → HasParameter earlier read) ∧
        ∀ node, p.Stores node → ∃ kind, HasNode earlier node kind
  | createRecorder name type => ∃ recorder ∈ model.recorders.entities,
      recorder.name = name ∧ recorder.typeName = type ∧ model.Watchable earlier recorder
  | setCost target value =>
    setCost target value ∈ model.limitCalls ∧ HasQuantity earlier value
  | setBound target bound value =>
    setBound target bound value ∈ model.limitCalls ∧ HasQuantity earlier value
  | _ => True

/-- Whether all calls that one plan has over another are grounded where they stand. -/
def GroundedSince (model : Model) (plan final : Plan) : Prop :=
  ∃ added, final.calls = plan.calls ++ added ∧
    ∀ before call after, added = before ++ call :: after →
      model.Grounded (plan.calls ++ before) call

open Build Resolution

/-- What a model can ask an engine for. -/
inductive Asks (model : Model) : Request → Prop
  | network {request : Request} (h : request ∈ model.networkRequests) : Asks model request
  | parameter {all : List Pending} {p : Pending}
      (specified : specs model.specContext model.parameters = .ok all) (h : p ∈ all) :
      Asks model p.request
  | final {request : Request} (h : request ∈ model.finalRequests) : Asks model request

/-- All that a build asks for is asked for on behalf of an entry of the model. -/
theorem Built.asks {transcript : List Exchange} {result : Except ModelError BuildReport}
    (h : model.Built transcript result) :
    ∀ exchange ∈ transcript, model.Asks exchange.request := by
  have hnetwork : ∀ exchange ∈ model.networkRequests.map Exchange.grant,
      model.Asks exchange.request := List.forall_mem_map.mpr fun _ hmem => .network hmem
  have hcourse {xs : List Exchange} {result : Except ModelError Resolution}
      (course : Course model.specContext model.parameters xs result) :
      ∀ exchange ∈ xs, model.Asks exchange.request := by
    intro exchange hexchange
    obtain ⟨all, hall, p, hp, hrequest⟩ := course.requests exchange hexchange
    exact hrequest ▸ .parameter hall hp
  -- the build stops in the network, in resolution or at the end, or it goes through
  cases h with
  | unfounded network =>
    intro exchange hexchange
    exact .network (network.prefix_requests.subset (List.mem_map_of_mem hexchange))
  | unresolved course => exact List.forall_mem_append.mpr ⟨hnetwork, hcourse course⟩
  | unfinished course final =>
    refine List.forall_mem_append.mpr
      ⟨hnetwork, List.forall_mem_append.mpr ⟨hcourse course, fun exchange hexchange => ?_⟩⟩
    exact .final (final.prefix_requests.subset (List.mem_map_of_mem hexchange))
  | finished course =>
    exact List.forall_mem_append.mpr ⟨hnetwork, List.forall_mem_append.mpr
      ⟨hcourse course, List.forall_mem_map.mpr fun _ hmem => .final hmem⟩⟩

variable {plan : Plan}

/-- A parameter that a plan grants is grounded, since its specification names all that its fields
name. -/
theorem grounded_parameter (h : plan.Coupled) {all : List Pending} {p : Pending}
    (hspecs : specs model.specContext model.parameters = .ok all) (hp : p ∈ all)
    (hcheck : plan.check p.request = .ok ()) :
    model.Grounded plan.calls (ofRequest p.request) := by
  have hprepared := prepared_of_specs hspecs
  have hfits := hprepared.fits p hp
  -- the check has found all references, and the plan only knows what its calls created
  obtain ⟨-, hreads, hnodes⟩ := Plan.check_createParameter_iff.mp hcheck
  rw [hfits.parameters] at hreads
  rw [hfits.nodes] at hnodes
  refine ⟨p.parameter, hprepared.mem_entities hp, rfl, rfl, fun read hread => ?_,
    fun node hnode => ?_⟩
  · exact h.hasParameter_of_mem (hreads read (Parameter.names_iff.mp hread))
  · have hknown := hnodes node (Parameter.stores_iff.mp hnode)
    obtain ⟨kind, hkind⟩ := Option.ne_none_iff_exists'.mp hknown
    exact ⟨kind, h.hasNode_of_nodeKind? hkind⟩

/-- A recorder that is granted comes after all that it watches, since the plan looks for it among
its calls. -/
theorem grounded_recorder (h : plan.Coupled) {recorder : Recorder}
    (hrecorder : recorder ∈ model.recorders.entities)
    (hcheck : plan.check (model.recorderRequest recorder) = .ok ()) :
    model.Grounded plan.calls (ofRequest (model.recorderRequest recorder)) := by
  obtain ⟨-, hnodes, hreads⟩ := Plan.check_createRecorder_iff.mp hcheck
  refine ⟨recorder, hrecorder, rfl, rfl, ?_⟩
  -- what a recorder watches was found in the plan, which only holds what calls created
  cases recorder with
  | nodeFlow recorder =>
    intro name hname
    rw [← connectors_eq_standIns] at hname
    obtain ⟨kind, hkind, -⟩ := hnodes name (List.mem_flatMap.mpr
      ⟨recorder.node, List.mem_singleton.mpr rfl, hname⟩)
    exact ⟨kind, h.hasNode_of_nodeKind? hkind⟩
  | storageVolume recorder =>
    intro name hname
    rw [← connectors_eq_standIns] at hname
    obtain ⟨kind, hkind, hstorage⟩ := hnodes name (List.mem_flatMap.mpr
      ⟨recorder.node, List.mem_singleton.mpr rfl, hname⟩)
    rw [hstorage rfl] at hkind
    exact h.hasNode_of_nodeKind? hkind
  | parameter recorder =>
    exact h.hasParameter_of_mem (hreads recorder.parameter (List.mem_singleton.mpr rfl))

/-- A cost or a bound that is granted comes after its engine node and the parameter that it names.
-/
theorem grounded_limit (h : plan.Coupled) {node : Node} (hnode : node ∈ model.nodes.entities)
    {request : Request} (hrequest : request ∈ constraintRequests node)
    (hcheck : plan.check request = .ok ()) :
    model.Grounded plan.calls (ofRequest request) := by
  have hmem : ofRequest request ∈ model.limitCalls := by
    refine List.mem_flatMap.mpr ⟨node, hnode, ?_⟩
    rw [← Node.map_ofRequest_constraintRequests]
    exact List.mem_map_of_mem hrequest
  rcases exists_of_mem_constraintRequests hrequest with ⟨_, _, rfl⟩ | ⟨_, _, _, rfl⟩
  · exact ⟨hmem, h.hasQuantity (Plan.check_setCost_iff.mp hcheck).2⟩
  · exact ⟨hmem, h.hasQuantity (Plan.check_setBound_iff.mp hcheck).2⟩

/-- Whatever a model asks for and a plan grants is grounded. -/
theorem Asks.grounded {request : Request} (hasks : model.Asks request) (h : plan.Coupled)
    (hcheck : plan.check request = .ok ()) :
    model.Grounded plan.calls (ofRequest request) := by
  cases hasks with
  | network hmem =>
    -- nodes and edges come before anything that has to be grounded
    have hstage := (spans_networkRequests.bounds request hmem).2
    cases request with
    | addNode _ _ _ => trivial
    | addAggregatedNode _ _ _ => trivial
    | connect _ _ => trivial
    | _ => simp [Request.stage] at hstage
  | parameter specified hp => exact grounded_parameter h specified hp hcheck
  | final hmem =>
    rcases List.mem_append.mp hmem with hmem | hmem
    · obtain ⟨recorder, hrecorder, rfl⟩ := List.mem_map.mp hmem
      exact grounded_recorder h hrecorder hcheck
    · rcases List.mem_append.mp hmem with hmem | hmem
      · obtain ⟨output, -, rfl⟩ := List.mem_map.mp hmem
        trivial
      · obtain ⟨node, hnode, hrequest⟩ := List.mem_flatMap.mp hmem
        exact grounded_limit h hnode hrequest hcheck

/-- However a build ends, all calls that it has added come after what they name. -/
theorem groundedSince_build (model : Model) (h : plan.Coupled) :
    model.GroundedSince plan (outcome (model.build Plan.engine) plan).2 := by
  obtain ⟨transcript, result, last, hruns, hbuilt⟩ :=
    model.follows_build.exists_runs Plan.engine plan
  obtain ⟨hadmits, hlast⟩ := Plan.admits_of_answers hruns.answers
  rw [hruns.outcome_eq, hlast]
  refine ⟨_, Plan.calls_addAll _ _, fun before call after hsplit => ?_⟩
  -- the call is granted by the plan as the calls before it have made it
  obtain ⟨xs, rest, hgranted, rfl, hrest⟩ := List.map_eq_append_iff.mp hsplit
  obtain ⟨request, ys, rfl, rfl, -⟩ := List.map_eq_cons_iff.mp hrest
  have hmem : request ∈ transcript.filterMap Exchange.granted? := by
    rw [hgranted]
    exact List.mem_append_right _ List.mem_cons_self
  obtain ⟨exchange, hexchange, hgrant⟩ := List.mem_filterMap.mp hmem
  have hasks : model.Asks request :=
    Exchange.request_eq_of_granted? hgrant ▸ hbuilt.asks exchange hexchange
  rw [hgranted, Plan.admits_append] at hadmits
  rw [← Plan.calls_addAll]
  exact hasks.grounded (h.addAll xs) hadmits.2.1

/-- However a build ends, and whatever its plan was asked before: each parameter, recorder, cost and
bound that it adds comes after all that the fields of its entry name. -/
theorem build_defines_before_use (model : Model) (solvers : List String)
    (requests : List Request) :
    model.GroundedSince ((Plan.new solvers).askAll requests)
      (outcome (model.build Plan.engine) ((Plan.new solvers).askAll requests)).2 :=
  groundedSince_build model ((Plan.Coupled.new solvers).askAll requests)

def createsFlow : Call → Bool
  | createRecorder name type => name == "flow" && type == "NodeFlow"
  | _ => false

/-- The recorder of the canal comes after the engine nodes of both its bands, in a plan that was
asked for a node and for a connection before. -/
theorem build_defines_before_use_canal :
    ∃ model plan final before after, load? .strict canal = .ok model ∧
      plan = (Plan.new []).askAll [.addNode "spring" .input none, .connect "spring" "delta"] ∧
      (outcome (model.build Plan.engine) plan).2 = final ∧
      model.standIns "canal" = ["canal.step-0", "canal.step-1"] ∧
      final.calls = plan.calls ++ before ++ createRecorder "flow" "NodeFlow" :: after ∧
      ∀ name ∈ ["canal.step-0", "canal.step-1"],
        ∃ kind, HasNode (plan.calls ++ before) name kind := by
  let requests : List Request := [.addNode "spring" .input none, .connect "spring" "delta"]
  let plan := (Plan.new []).askAll requests
  have hfacts : ((load? .strict canal).toOption.map fun model =>
      (model.standIns "canal", model.recorders.entities,
        (outcome (model.build Plan.engine) plan).2.calls.any createsFlow)) =
        some (["canal.step-0", "canal.step-1"], [.nodeFlow ⟨"flow", none, "canal"⟩,
          .parameter ⟨"losses", none, "net"⟩], true) := by decide +kernel
  obtain ⟨model, hload, hfacts⟩ := map_toOption_eq_some_iff.mp hfacts
  obtain ⟨hstandIns, hfacts⟩ := Prod.mk.inj hfacts
  obtain ⟨hrecorders, hflow⟩ := Prod.mk.inj hfacts
  obtain ⟨call, hcall, hcreates⟩ := List.any_eq_true.mp hflow
  obtain rfl : call = createRecorder "flow" "NodeFlow" := by
    cases call with
    | createRecorder name type => simpa [createsFlow] using hcreates
    | _ => cases hcreates
  obtain ⟨added, hcalls, hgrounded⟩ := build_defines_before_use model [] requests
  -- the node that was there before is no recorder, so the recorder is added by the build
  have hadded : createRecorder "flow" "NodeFlow" ∈ added := by
    rw [hcalls, List.mem_append] at hcall
    refine hcall.resolve_left ?_
    have hbefore : plan.calls = [addNode "spring" .input none] := rfl
    rw [hbefore]
    simp
  obtain ⟨before, after, rfl⟩ := List.append_of_mem hadded
  obtain ⟨recorder, hrecorder, hname, -, hwatches⟩ := hgrounded before _ after rfl
  rw [hrecorders] at hrecorder
  refine ⟨model, plan, _, before, after, hload, rfl, rfl, hstandIns, ?_, ?_⟩
  · rw [hcalls, List.append_assoc]
  · cases hrecorder with
    | head =>
      rw [← hstandIns]
      exact hwatches
    | tail _ hrest =>
      rw [List.mem_singleton.mp hrest] at hname
      exact absurd hname (by decide)

end Model

end FlowPlan
