import FlowPlan.Build
import FlowPlan.Proofs.Admission
import FlowPlan.Proofs.Transcript

namespace FlowPlan

def Request.phase : Request → BuildPhase
  | addNode _ _ _ => .nodes
  | addAggregatedNode _ _ _ => .nodes
  | connect _ _ => .edges
  | setCost _ _ => .constraints
  | setBound _ _ _ => .constraints
  | createParameter _ _ _ => .parameters
  | createRecorder _ _ _ => .recorders
  | createOutput _ _ _ => .outputs
  | run _ _ _ _ => .run

namespace Build

variable {α β σ : Type}

/-- What comes of requests that all have to be granted: they are, or the first one that is not ends
the build. -/
inductive Demanded (requests : List Request) : List Exchange → Except ModelError Unit → Prop
  | granted : Demanded requests (requests.map Exchange.grant) (.ok ())
  | refused {before after : List Request} {request : Request} {entity : String}
      {source : EngineError} (split : requests = before ++ request :: after) :
      Demanded requests (before.map Exchange.grant ++ [{ request, answer := .error source }])
        (.error (.engine request.phase entity source))

namespace Follows

theorem nothing : Follows (fun _ _ => pure ()) (Demanded []) :=
  of_outcome_eq (fun _ _ => rfl) .granted

theorem note (level : LogLevel) (text : String) :
    Follows (fun _ _ => liftM (Logged.note level text)) (Demanded []) :=
  of_outcome_eq (fun _ state => outcome_note level text state) .granted

/-- A request that has to be granted makes a refusal of it an error of its phase. -/
theorem demand (phase : BuildPhase) (entity : String) (request : Request) :
    Follows (fun _ engine => engine.demand phase entity request) fun transcript result =>
      ∃ answer, transcript = [{ request, answer }] ∧
        result = answer.mapError (.engine phase entity) := by
  -- the answer alone decides how the part ends
  refine (ask request).bind
    (R := fun answer transcript result =>
      transcript = [] ∧ result = answer.mapError (.engine phase entity))
    (fun answer => ?_) ?_ ?_
  · cases answer with
    | ok _ => exact of_outcome_eq (fun _ _ => rfl) ⟨rfl, rfl⟩
    | error source => exact of_outcome_eq (fun _ _ => rfl) ⟨rfl, rfl⟩
  · rintro _ answer _ _ ⟨_, rfl, hanswer⟩ ⟨rfl, rfl⟩
    cases hanswer
    exact ⟨answer, rfl, rfl⟩
  · rintro _ _ ⟨_, _, hanswer⟩
    cases hanswer

theorem demanded {phase : BuildPhase} (entity : String) {request : Request}
    (hphase : request.phase = phase) :
    Follows (fun _ engine => engine.demand phase entity request) (Demanded [request]) := by
  refine (demand phase entity request).mono ?_
  rintro _ _ ⟨answer, rfl, rfl⟩
  subst hphase
  cases answer with
  | ok _ => exact .granted
  | error source => exact .refused (List.nil_append [request]).symm

/-- Two parts that only ask for things make up one that asks for the things of both, in their order.
-/
theorem andThen {x y : Part Unit} {xs ys : List Request} (hx : Follows x (Demanded xs))
    (hy : Follows y (Demanded ys)) :
    Follows (fun _ engine => x _ engine >>= fun _ => y _ engine) (Demanded (xs ++ ys)) := by
  refine hx.bind (fun _ => hy) ?_ ?_
  · rintro _ _ _ _ ⟨⟩ hrest
    -- the second part starts only after all that the first part demands is granted
    cases hrest with
    | granted =>
      rw [← List.map_append]
      exact .granted
    | refused split =>
      rw [← List.append_assoc, ← List.map_append]
      exact .refused (by rw [split, List.append_assoc])
  · intro _ _ hfirst
    cases hfirst with
    | refused split => exact .refused (by rw [split, List.append_assoc, List.cons_append])

theorem thenNote {x : Part Unit} {xs : List Request} (hx : Follows x (Demanded xs))
    (level : LogLevel) (text : String) :
    Follows (fun _ engine => x _ engine >>= fun _ => liftM (Logged.note level text))
      (Demanded xs) := by
  have hboth := hx.andThen (note level text)
  rwa [List.append_nil] at hboth

/-- The same for a part that is carried out for each of some items. -/
theorem forM {items : List α} {part : α → Part Unit} {requests : α → List Request}
    (h : ∀ a ∈ items, Follows (part a) (Demanded (requests a))) :
    Follows (fun _ engine => items.forM fun a => part a _ engine)
      (Demanded (items.flatMap requests)) := by
  induction items with
  | nil => exact nothing
  | cons a rest ih =>
    obtain ⟨ha, hrest⟩ := List.forall_mem_cons.mp h
    rw [List.flatMap_cons]
    exact ha.andThen (ih hrest)

theorem demandAll {phase : BuildPhase} (entity : String) {requests : List Request}
    (hphase : ∀ request ∈ requests, request.phase = phase) :
    Follows (fun _ engine => Model.demandAll engine phase entity requests)
      (Demanded requests) := by
  have hall : Follows (fun _ engine => requests.forM fun r => engine.demand phase entity r)
      (Demanded (requests.flatMap fun r => [r])) :=
    forM fun r hr => demanded entity (hphase r hr)
  rwa [List.flatMap_singleton'] at hall

end Follows

/-- Whether a build comes to a result. -/
def Succeeds (build : Build σ α) (state : σ) : Prop :=
  ∃ a, (outcome build state).1 = .ok a

/-- Whether a build puts some requests to a plan, and does nothing else. -/
structure Demands (build : Build Plan Unit) (requests : List Request) : Prop where
  granted : ∀ plan : Plan, plan.Admits requests →
    outcome build plan = (.ok (), plan.addAll requests)
  refused : ∀ plan : Plan, ¬plan.Admits requests →
    ∃ e next, outcome build plan = (.error e, next)

end Build

namespace Plan

variable {plan last : Plan}

/-- A plan takes in what it grants, and nothing else. -/
theorem admits_of_answers {transcript : List Exchange}
    (h : Plan.engine.Answers plan transcript last) :
    plan.Admits (transcript.filterMap Exchange.granted?) ∧
      last = plan.addAll (transcript.filterMap Exchange.granted?) := by
  -- by induction on the exchanges, from any plan: a refusal leaves it as it is
  induction transcript generalizing plan with
  | nil => exact ⟨trivial, h⟩
  | cons exchange rest ih =>
    obtain ⟨request, answer⟩ := exchange
    obtain ⟨hanswer, hrest⟩ := h
    change (plan.answer request).1 = answer at hanswer
    change Plan.engine.Answers (plan.answer request).2 rest last at hrest
    rw [Plan.answer] at hanswer hrest
    cases hcheck : plan.check request with
    | ok _ =>
      rw [hcheck] at hanswer hrest
      subst hanswer
      obtain ⟨hadmits, hlast⟩ := ih hrest
      exact ⟨⟨hcheck, hadmits⟩, hlast⟩
    | error source =>
      rw [hcheck] at hanswer hrest
      subst hanswer
      exact ih hrest

/-- A plan that answers with a refusal is one whose check refuses, and it stays as it is. -/
theorem check_of_answers_refusal {request : Request} {source : EngineError}
    (h : Plan.engine.Answers plan [{ request, answer := .error source }] last) :
    plan.check request = .error source := by
  have hanswer : (plan.answer request).1 = .error source := h.1
  rw [Plan.answer] at hanswer
  cases hcheck : plan.check request with
  | ok _ =>
    rw [hcheck] at hanswer
    cases hanswer
  | error source' =>
    rw [hcheck] at hanswer
    cases hanswer
    rfl

/-- How a plan that is asked some requests in turn ends with an error: it grants those before one of
them, and refuses that one. -/
inductive Refuses (plan : Plan) (requests : List Request) : ModelError → Prop
  | intro {before after : List Request} {request : Request} {entity : String}
      {source : EngineError} (split : requests = before ++ request :: after)
      (granted : plan.Admits before)
      (refused : (plan.addAll before).check request = .error source) :
      Refuses plan requests (.engine request.phase entity source)

/-- A plan does not both refuse a batch and admit it. -/
theorem Refuses.not_admits {requests : List Request} {e : ModelError}
    (h : plan.Refuses requests e) : ¬plan.Admits requests := by
  cases h with
  | intro split _ refused =>
    intro hadmits
    rw [split, admits_append] at hadmits
    rw [hadmits.2.1] at refused
    cases refused

/-- Requests are refused among the first ones, or among others when the first ones are granted. -/
theorem refuses_append_iff {xs ys : List Request} {e : ModelError} :
    plan.Refuses (xs ++ ys) e ↔
      plan.Refuses xs e ∨ plan.Admits xs ∧ (plan.addAll xs).Refuses ys e := by
  constructor
  · intro h
    cases h with
    | @intro before after request entity source split granted refused =>
      -- the refused request is among the later ones, or it is one of the first
      rcases List.append_eq_append_iff.mp split with ⟨gap, rfl, hys⟩ | ⟨gap, hxs, hrest⟩
      · rw [admits_append] at granted
        rw [addAll_append] at refused
        exact Or.inr ⟨granted.1, .intro hys granted.2 refused⟩
      · cases gap with
        | nil =>
          rw [List.append_nil] at hxs
          subst hxs
          have hfirst : ys = [] ++ request :: after := hrest.symm
          exact Or.inr ⟨granted, .intro hfirst trivial refused⟩
        | cons first gap =>
          obtain ⟨rfl, -⟩ := List.cons_eq_cons.mp hrest
          exact Or.inl (.intro hxs granted refused)
  · rintro (h | ⟨hadmits, h⟩)
    · cases h with
      | @intro before after request entity source split granted refused =>
        have hsplit : xs ++ ys = before ++ request :: (after ++ ys) := by
          rw [split, List.append_assoc, List.cons_append]
        exact .intro hsplit granted refused
    · cases h with
      | @intro before after request entity source split granted refused =>
        rw [← addAll_append] at refused
        have hsplit : xs ++ ys = (xs ++ before) ++ request :: after := by
          rw [split, List.append_assoc]
        exact .intro hsplit ((admits_append _ _ _).mpr ⟨hadmits, granted⟩) refused

/-- Requests that declare nothing are refused as if each had been the first. -/
theorem Refuses.exists_of_silent {requests : List Request} {e : ModelError}
    (h : plan.Refuses requests e) (hsilent : ∀ request ∈ requests, request.Silent) :
    ∃ request ∈ requests, ∃ entity source, plan.check request = .error source ∧
      e = .engine request.phase entity source := by
  cases h with
  | @intro before after request entity source split granted refused =>
    have hrequest : request ∈ requests := by simp [split]
    have hbefore : ∀ r ∈ before, r.Silent := fun r hr => hsilent r (by simp [split, hr])
    refine ⟨request, hrequest, entity, source, ?_, rfl⟩
    rw [← check_addAll_of_silent plan hbefore (hsilent request hrequest)]
    exact refused

/-- Where each request belongs to an item, the one that is refused does. -/
theorem Refuses.exists_of_map {α : Type} {items : List α} {request : α → Request}
    {e : ModelError} (h : plan.Refuses (items.map request) e) :
    ∃ earlier a later entity source, items = earlier ++ a :: later ∧
      (plan.addAll (earlier.map request)).check (request a) = .error source ∧
      e = .engine (request a).phase entity source := by
  cases h with
  | @intro before after refusal entity source split granted refused =>
    obtain ⟨earlier, rest, rfl, rfl, hrest⟩ := List.map_eq_append_iff.mp split
    obtain ⟨a, later, rfl, rfl, -⟩ := List.map_eq_cons_iff.mp hrest
    exact ⟨earlier, a, later, entity, source, rfl, refused, rfl⟩

end Plan

namespace Build

variable {α β σ : Type}

/-- A part that puts requests to a plan is granted all of them, or stops at the first one that the
plan refuses. -/
theorem outcome_stops {part : Part Unit} {requests : List Request}
    (h : Follows part (Demanded requests)) (plan : Plan) :
    (plan.Admits requests ∧
      outcome (part Plan Plan.engine) plan = (.ok (), plan.addAll requests)) ∨
    ∃ before request after entity source, requests = before ++ request :: after ∧
      plan.Admits before ∧ (plan.addAll before).check request = .error source ∧
      outcome (part Plan Plan.engine) plan =
        (.error (.engine request.phase entity source), plan.addAll before) := by
  obtain ⟨transcript, result, last, hruns, hdemanded⟩ := h.exists_runs Plan.engine plan
  obtain ⟨hadmits, hlast⟩ := Plan.admits_of_answers hruns.answers
  have houtcome := hruns.outcome_eq
  cases hdemanded with
  | granted =>
    rw [Exchange.filterMap_granted?_map_grant] at hadmits hlast
    exact Or.inl ⟨hadmits, hlast ▸ houtcome⟩
  | @refused before after request entity source split =>
    -- the refusal is the last exchange, and adds nothing
    have hgranted : (before.map Exchange.grant ++
        [Exchange.mk request (.error source)]).filterMap Exchange.granted? = before := by
      rw [List.filterMap_append, Exchange.filterMap_granted?_map_grant]
      exact List.append_nil before
    rw [hgranted] at hadmits hlast
    obtain ⟨middle, hbefore, hrequest⟩ := Engine.answers_append_iff.mp hruns.answers
    obtain ⟨-, hmiddle⟩ := Plan.admits_of_answers hbefore
    rw [Exchange.filterMap_granted?_map_grant] at hmiddle
    have hcheck := Plan.check_of_answers_refusal hrequest
    rw [hmiddle] at hcheck
    exact Or.inr ⟨before, request, after, entity, source, split, hadmits, hcheck,
      hlast ▸ houtcome⟩

/-- A part that puts requests to a plan is granted all of them, or ends with the first one that the
plan refuses. -/
theorem outcome_of_follows {part : Part Unit} {requests : List Request}
    (h : Follows part (Demanded requests)) (plan : Plan) :
    (plan.Admits requests ∧
      outcome (part Plan Plan.engine) plan = (.ok (), plan.addAll requests)) ∨
    ∃ e next, outcome (part Plan Plan.engine) plan = (.error e, next) ∧
      plan.Refuses requests e := by
  rcases outcome_stops h plan with
    hgranted | ⟨before, request, after, entity, source, split, hadmits, hcheck, houtcome⟩
  · exact Or.inl hgranted
  · exact Or.inr ⟨_, _, houtcome, .intro split hadmits hcheck⟩

/-- A part that starts with a request that is refused leaves the plan as it is. -/
theorem outcome_of_first_refused {part : Part Unit} {first : Request} {rest : List Request}
    (h : Follows part (Demanded (first :: rest))) {plan : Plan} {source : EngineError}
    (hcheck : plan.check first = .error source) :
    ∃ entity, outcome (part Plan Plan.engine) plan =
      (.error (.engine first.phase entity source), plan) := by
  have hrefused : plan.check first ≠ .ok () := by
    rw [hcheck]
    exact nofun
  -- the part stops at a refused request, and none can come before the first
  rcases outcome_stops h plan with
    ⟨hadmits, -⟩ | ⟨before, request, after, entity, source', split, hadmits, hcheck', houtcome⟩
  · exact absurd hadmits.1 hrefused
  · cases before with
    | nil =>
      obtain ⟨rfl, -⟩ := List.cons_eq_cons.mp split
      rw [Plan.addAll_nil, hcheck] at hcheck'
      cases hcheck'
      exact ⟨entity, houtcome⟩
    | cons other before =>
      obtain ⟨rfl, -⟩ := List.cons_eq_cons.mp split
      exact absurd hadmits.1 hrefused

/-- What holds towards any engine holds towards a plan. -/
theorem Demands.of_follows {part : Part Unit} {requests : List Request}
    (h : Follows part (Demanded requests)) : Demands (part Plan Plan.engine) requests := by
  constructor
  · intro plan hadmits
    rcases outcome_of_follows h plan with ⟨-, hout⟩ | ⟨e, next, -, hrefused⟩
    · exact hout
    · exact absurd hadmits hrefused.not_admits
  · intro plan hnot
    rcases outcome_of_follows h plan with ⟨hadmits, -⟩ | ⟨e, next, hout, -⟩
    · exact absurd hadmits hnot
    · exact ⟨e, next, hout⟩

theorem succeeds_note_bind (level : LogLevel) (text : String) (f : Unit → Build σ β) (state : σ) :
    Succeeds ((liftM (Logged.note level text) : Build σ Unit) >>= f) state ↔
      Succeeds (f ()) state := by
  unfold Succeeds
  rw [outcome_note_bind]

/-- Of two steps the second one starts where the first one ends, if it comes to an end. -/
theorem succeeds_bind_iff {x : Build σ α} {f : α → Build σ β} {state : σ} :
    Succeeds (x >>= f) state ↔
      ∃ a next, outcome x state = (.ok a, next) ∧ Succeeds (f a) next := by
  unfold Succeeds
  rw [outcome_bind]
  rcases outcome x state with ⟨e | a, next⟩
  · simp
  · constructor
    · exact fun h => ⟨a, next, rfl, h⟩
    · rintro ⟨a', next', hsame, h⟩
      cases hsame
      exact h

/-- What follows a part that puts requests to a plan is reached when all of them are granted. -/
theorem Demands.succeeds_bind_iff {x : Build Plan Unit} {requests : List Request}
    (hx : Demands x requests) {f : Unit → Build Plan β} {plan : Plan} :
    Succeeds (x >>= f) plan ↔
      plan.Admits requests ∧ Succeeds (f ()) (plan.addAll requests) := by
  -- the plan admits the demands, and the rest decides, or it fails at one of them
  by_cases hadmits : plan.Admits requests
  · unfold Succeeds
    rw [outcome_bind_of_ok (hx.granted plan hadmits)]
    exact (and_iff_right hadmits).symm
  · obtain ⟨e, next, hfail⟩ := hx.refused plan hadmits
    constructor
    · rintro ⟨b, hb⟩
      rw [outcome_bind_of_error hfail] at hb
      cases hb
    · exact fun h => absurd h.1 hadmits

end Build

namespace Model

open Build

variable (model : Model)

theorem exists_of_mem_groupRequest? {node : Node} {request : Request}
    (h : request ∈ node.groupRequest?.toList) :
    ∃ name members factors, request = .addAggregatedNode name members factors := by
  cases node with
  | aggregated group => exact ⟨_, _, _, List.mem_singleton.mp h⟩
  | _ => cases h

theorem exists_of_mem_constraintRequests {node : Node} {request : Request}
    (h : request ∈ constraintRequests node) :
    (∃ target value, request = .setCost target value) ∨
      ∃ target limit value, request = .setBound target limit value := by
  obtain ⟨⟨target, constraint⟩, -, rfl⟩ := List.mem_map.mp h
  cases constraint with
  | cost value => exact Or.inl ⟨target, value, rfl⟩
  | bound limit value => exact Or.inr ⟨target, limit, value, rfl⟩

def nodeRequests : List Request :=
  model.nodes.entities.flatMap Node.requests ++
    model.nodes.entities.flatMap fun node => node.groupRequest?.toList

/-- The nodes are created in two passes over the declarations, and groups only in the second one. -/
theorem follows_createNodes :
    Follows (fun _ engine => model.createNodes engine) (Demanded model.nodeRequests) := by
  have hnodes : Follows
      (fun _ engine => model.nodes.entities.forM fun node =>
        demandAll engine .nodes node.name node.requests)
      (Demanded (model.nodes.entities.flatMap Node.requests)) := by
    refine Follows.forM fun node _ => Follows.demandAll node.name ?_
    exact List.forall_mem_map.mpr fun _ _ => rfl
  -- groups come in a second pass over the nodes, after all that they could contain
  have hgroups : Follows
      (fun _ engine => model.nodes.entities.forM fun node =>
        demandAll engine .nodes node.name node.groupRequest?.toList)
      (Demanded (model.nodes.entities.flatMap fun node => node.groupRequest?.toList)) := by
    refine Follows.forM fun node _ => Follows.demandAll node.name fun request hrequest => ?_
    obtain ⟨_, _, _, rfl⟩ := exists_of_mem_groupRequest? hrequest
    rfl
  exact hnodes.andThen (hgroups.thenNote _ _)

theorem follows_createEdges :
    Follows (fun _ engine => model.createEdges engine)
      (Demanded (model.edges.flatMap model.edgeRequests)) := by
  refine (Follows.forM fun edge _ => Follows.demandAll edge.label ?_).thenNote _ _
  intro request hrequest
  obtain ⟨source, -, hrequest⟩ := List.mem_flatMap.mp hrequest
  obtain ⟨target, -, rfl⟩ := List.mem_map.mp hrequest
  rfl

theorem follows_createRecorders :
    Follows (fun _ engine => model.createRecorders engine)
      (Demanded (model.recorders.entities.map model.recorderRequest)) := by
  rw [List.map_eq_flatMap]
  exact (Follows.forM fun recorder _ => Follows.demanded recorder.name rfl).thenNote _ _

theorem follows_createOutputs :
    Follows (fun _ engine => model.createOutputs engine)
      (Demanded (model.outputs.entities.map model.outputRequest)) := by
  rw [List.map_eq_flatMap]
  exact (Follows.forM fun output _ => Follows.demanded output.name rfl).thenNote _ _

theorem follows_applyConstraints :
    Follows (fun _ engine => model.applyConstraints engine)
      (Demanded (model.nodes.entities.flatMap constraintRequests)) := by
  refine (Follows.forM fun node _ => Follows.demandAll node.name ?_).thenNote _ _
  intro request hrequest
  rcases exists_of_mem_constraintRequests hrequest with ⟨_, _, rfl⟩ | ⟨_, _, _, rfl⟩
  · rfl
  · rfl

theorem demands_createNodes :
    Demands (model.createNodes Plan.engine) model.nodeRequests :=
  Demands.of_follows model.follows_createNodes

theorem demands_createEdges :
    Demands (model.createEdges Plan.engine) (model.edges.flatMap model.edgeRequests) :=
  Demands.of_follows model.follows_createEdges

theorem demands_createRecorders :
    Demands (model.createRecorders Plan.engine)
      (model.recorders.entities.map model.recorderRequest) :=
  Demands.of_follows model.follows_createRecorders

theorem demands_createOutputs :
    Demands (model.createOutputs Plan.engine)
      (model.outputs.entities.map model.outputRequest) :=
  Demands.of_follows model.follows_createOutputs

theorem demands_applyConstraints :
    Demands (model.applyConstraints Plan.engine)
      (model.nodes.entities.flatMap constraintRequests) :=
  Demands.of_follows model.follows_applyConstraints

/-- A build succeeds when each of its phases is granted what it asks for, on the plan that the
phases before it leave. -/
theorem succeeds_build_iff (plan : Plan) :
    Succeeds (model.build Plan.engine) plan ↔
      plan.Admits model.nodeRequests ∧
      (plan.addAll model.nodeRequests).Admits (model.edges.flatMap model.edgeRequests) ∧
      ∃ resolution resolved,
        outcome (Resolution.resolve Plan.engine model.specContext model.parameters)
          ((plan.addAll model.nodeRequests).addAll (model.edges.flatMap model.edgeRequests)) =
            (.ok resolution, resolved) ∧
        resolved.Admits (model.recorders.entities.map model.recorderRequest ++
          model.outputs.entities.map model.outputRequest ++
          model.nodes.entities.flatMap constraintRequests) := by
  unfold build
  rw [(demands_createNodes model).succeeds_bind_iff, (demands_createEdges model).succeeds_bind_iff,
    succeeds_bind_iff]
  refine and_congr_right fun _ => and_congr_right fun _ => ?_
  refine exists_congr fun resolution => exists_congr fun resolved => and_congr_right fun _ => ?_
  rw [succeeds_note_bind, (demands_createRecorders model).succeeds_bind_iff,
    (demands_createOutputs model).succeeds_bind_iff,
    (demands_applyConstraints model).succeeds_bind_iff, Plan.admits_append, Plan.admits_append,
    Plan.addAll_append, and_assoc]
  refine and_congr_right fun _ => and_congr_right fun _ => ?_
  -- what is left is a note and the report
  exact and_iff_left ⟨_, rfl⟩

end Model

end FlowPlan
