import FlowPlan.Proofs.Building
import FlowPlan.Proofs.Rounds

namespace FlowPlan

namespace Request

/-- The place of a request in a build. Groups come after all other nodes, a run comes last. -/
def stage : Request → ℕ
  | addNode _ _ _ => 0
  | addAggregatedNode _ _ _ => 1
  | connect _ _ => 2
  | createParameter _ _ _ => 3
  | createRecorder _ _ _ => 4
  | createOutput _ _ _ => 5
  | setCost _ _ => 6
  | setBound _ _ _ => 6
  | run _ _ _ _ => 7

end Request

namespace Exchange

/-- Whether an engine puts the creation of a parameter off, for want of one that it reads. -/
def Deferred (exchange : Exchange) : Prop :=
  ∃ name kind spec parameter missing, exchange.request = .createParameter name kind spec ∧
    exchange.answer = .error (.dependencyNotFound parameter missing)

def Passed (exchange : Exchange) : Prop :=
  exchange.answer = .ok () ∨ exchange.Deferred

theorem passed_grant (request : Request) : (grant request).Passed :=
  Or.inl rfl

/-- A parameter that has to wait does not stop a build. -/
theorem passed_deferred (pending : Resolution.Pending) (parameter missing : String) :
    Passed { request := pending.request,
             answer := .error (.dependencyNotFound parameter missing) } :=
  Or.inr ⟨_, _, _, parameter, missing, rfl, rfl⟩

/-- Only the creation of a parameter can be put off. -/
theorem not_passed_of_refused {request : Request} {source : EngineError}
    (h : request.phase ≠ .parameters ∨
      ∀ parameter missing, source ≠ .dependencyNotFound parameter missing) :
    ¬Passed { request, answer := .error source } := by
  rintro (hgranted | ⟨_, _, _, parameter, missing, hrequest, hanswer⟩)
  · cases hgranted
  · cases hanswer
    rcases h with hphase | hfinal
    · cases hrequest
      exact hphase rfl
    · exact hfinal parameter missing rfl

end Exchange

namespace Build

variable {α β : Type}

/-- Whether a result is an error that an engine is the reason of. -/
def Blames (result : Except ModelError α) : Prop :=
  ∃ phase entity source, result = .error (.engine phase entity source)

theorem not_blames_ok (a : α) : ¬Blames (.ok a : Except ModelError α) := by
  rintro ⟨_, _, _, hsame⟩
  cases hsame

/-- How a part of a build ends: each answer let it go on, and its result blames no engine; or the
last answer did not, and the result is that refusal. -/
inductive Halts : List Exchange → Except ModelError α → Prop
  | passed {transcript : List Exchange} {result : Except ModelError α}
      (all : ∀ exchange ∈ transcript, exchange.Passed) (own : ¬Blames result) :
      Halts transcript result
  | refused {before : List Exchange} {request : Request} {entity : String} {source : EngineError}
      (earlier : ∀ exchange ∈ before, exchange.Passed)
      (fatal : ¬Exchange.Passed { request, answer := .error source }) :
      Halts (before ++ [{ request, answer := .error source }])
        (.error (.engine request.phase entity source))

namespace Halts

theorem of_ok {transcript : List Exchange} {a : α} (h : Halts transcript (.ok a)) :
    ∀ exchange ∈ transcript, exchange.Passed := by
  cases h with
  | passed all _ => exact all

/-- A result can be made into another one as long as the errors stay. -/
theorem of_error {transcript : List Exchange} {e : ModelError}
    (h : Halts transcript (.error e : Except ModelError α)) :
    Halts transcript (.error e : Except ModelError β) := by
  cases h with
  | passed all own =>
    refine .passed all ?_
    rintro ⟨phase, entity, source, hsame⟩
    cases hsame
    exact own ⟨phase, entity, source, rfl⟩
  | refused earlier fatal => exact .refused earlier fatal

/-- What a build has passed leaves the end to what comes next. -/
theorem append {xs ys : List Exchange} {result : Except ModelError α}
    (hxs : ∀ exchange ∈ xs, exchange.Passed) (hys : Halts ys result) : Halts (xs ++ ys) result := by
  cases hys with
  | passed all own => exact .passed (List.forall_mem_append.mpr ⟨hxs, all⟩) own
  | refused earlier fatal =>
    rw [← List.append_assoc]
    exact .refused (List.forall_mem_append.mpr ⟨hxs, earlier⟩) fatal

theorem map {transcript : List Exchange} {result : Except ModelError α} (f : α → β)
    (h : Halts transcript result) : Halts transcript (result.map f) := by
  cases result with
  | error e => exact h.of_error
  | ok a => exact .passed h.of_ok (not_blames_ok (f a))

end Halts

theorem passed_grants (requests : List Request) :
    ∀ exchange ∈ requests.map Exchange.grant, exchange.Passed :=
  List.forall_mem_map.mpr fun request _ => Exchange.passed_grant request

/-- Outside of the parameters, a build halts at the first refusal. -/
theorem Demanded.halts {requests : List Request} {transcript : List Exchange}
    {result : Except ModelError Unit} (h : Demanded requests transcript result)
    (hphase : ∀ request ∈ requests, request.phase ≠ .parameters) : Halts transcript result := by
  cases h with
  | granted => exact .passed (passed_grants requests) (not_blames_ok ())
  | @refused before after request entity source split =>
    have hrequest : request.phase ≠ .parameters := hphase request (by simp [split])
    exact .refused (passed_grants before) (Exchange.not_passed_of_refused (Or.inl hrequest))

/-- What has been asked for is a beginning of what was to be asked for. -/
theorem Demanded.prefix_requests {requests : List Request} {transcript : List Exchange}
    {result : Except ModelError Unit} (h : Demanded requests transcript result) :
    transcript.map Exchange.request <+: requests := by
  cases h with
  | granted => rw [Exchange.map_request_map_grant]
  | @refused before after request entity source split =>
    rw [split, List.map_append, Exchange.map_request_map_grant]
    exact ⟨after, by simp⟩

end Build

namespace Resolution

open Build

variable {parameters : Collection Parameter} {context : SpecContext} {pending : List Pending}
  {transcript : List Exchange}

/-- A round halts at the first refusal that is no request to wait. -/
theorem Offered.halts {result : Except ModelError Round}
    (h : Offered pending transcript result) : Halts transcript result := by
  induction h with
  | done => exact .passed (List.forall_mem_nil _) (not_blames_ok _)
  | granted _ ih =>
    exact .append (List.forall_mem_singleton.mpr (Exchange.passed_grant _)) (ih.map _)
  | deferred _ ih =>
    exact .append (List.forall_mem_singleton.mpr (Exchange.passed_deferred _ _ _)) (ih.map _)
  | refused final =>
    have hnone : ∀ exchange ∈ ([] : List Exchange), exchange.Passed := List.forall_mem_nil _
    exact .refused hnone (Exchange.not_passed_of_refused (Or.inr final))

theorem not_blames_diagnose (parameters : Collection Parameter) (stuck : List Parameter) :
    ¬Blames (.error (diagnose parameters stuck) : Except ModelError Resolution) := by
  rintro ⟨phase, entity, source, hsame⟩
  unfold diagnose at hsame
  dsimp only at hsame
  split at hsame
  · cases hsame
  · cases hsame

/-- Rounds halt where one of them does. -/
theorem Repeated.halts {sofar : Resolution} {result : Except ModelError Resolution}
    (h : Repeated parameters sofar pending transcript result) : Halts transcript result := by
  induction h with
  | done => exact .passed (List.forall_mem_nil _) (not_blames_ok _)
  | failed offered => exact offered.halts.of_error
  | stuck _ offered _ => exact .passed offered.halts.of_ok (not_blames_diagnose _ _)
  | again offered _ _ ih => exact .append offered.halts.of_ok ih

/-- A resolution halts where its rounds do, and asks for nothing when a parameter cannot be
specified. -/
theorem Course.halts {result : Except ModelError Resolution}
    (h : Course context parameters transcript result) : Halts transcript result := by
  cases h with
  | unspecified failed =>
    refine .passed (List.forall_mem_nil _) ?_
    rintro ⟨phase, entity, source, hsame⟩
    cases hsame
    obtain ⟨p, -, hspec⟩ := exists_spec_error_of_specs_error failed
    rcases error_of_spec hspec with ⟨_, _, hsame⟩ | ⟨_, _, _, hsame⟩
    · cases hsame
    · cases hsame
  | rounds _ repeated => exact repeated.halts

end Resolution

/-- Whether some requests go through the stages of a build in order, between two of them. -/
structure Spans (first last : ℕ) (requests : List Request) : Prop where
  forward : requests.Pairwise fun earlier later => earlier.stage ≤ later.stage
  bounds : ∀ request ∈ requests, first ≤ request.stage ∧ request.stage ≤ last

namespace Spans

variable {first last next final : ℕ} {xs ys : List Request}

theorem of_stage_eq (h : ∀ request ∈ xs, request.stage = first) : Spans first first xs where
  forward := by
    refine List.pairwise_of_forall_mem_list fun a ha b hb => ?_
    rw [h a ha, h b hb]
  bounds := by
    intro request hrequest
    rw [h request hrequest]
    exact ⟨Nat.le_refl first, Nat.le_refl first⟩

/-- Stretches of phases that come after each other make up one. -/
theorem append (hxs : Spans first last xs) (hys : Spans next final ys) (hfirst : first ≤ next)
    (hlast : last ≤ next) (hfinal : last ≤ final) : Spans first final (xs ++ ys) where
  forward := by
    refine List.pairwise_append.mpr ⟨hxs.forward, hys.forward, fun x hx y hy => ?_⟩
    have hupper := (hxs.bounds x hx).2
    have hlower := (hys.bounds y hy).1
    omega
  bounds := by
    refine List.forall_mem_append.mpr ⟨fun x hx => ?_, fun y hy => ?_⟩
    · have hx := hxs.bounds x hx
      omega
    · have hy := hys.bounds y hy
      omega

theorem widen (hxs : Spans first last xs) (hlast : last ≤ final) : Spans first final xs where
  forward := hxs.forward
  bounds := fun request hrequest =>
    ⟨(hxs.bounds request hrequest).1, (hxs.bounds request hrequest).2.trans hlast⟩

theorem restrict (hys : Spans first last ys) (hstart : xs <+: ys) : Spans first last xs where
  forward := hys.forward.sublist hstart.sublist
  bounds := fun request hrequest => hys.bounds request (hstart.subset hrequest)

end Spans

namespace Model

open Build Resolution

variable {model : Model}

/-- What comes before the parameters goes through the first stages in order. -/
theorem spans_networkRequests : Spans 0 2 model.networkRequests := by
  -- single nodes, groups and edges have a stage each, and come in this order
  have hsingle : Spans 0 0 (model.nodes.entities.flatMap Node.requests) := by
    refine Spans.of_stage_eq (List.forall_mem_flatMap.mpr fun node _ => ?_)
    exact List.forall_mem_map.mpr fun _ _ => rfl
  have hgroups :
      Spans 1 1 (model.nodes.entities.flatMap fun node => node.groupRequest?.toList) := by
    refine Spans.of_stage_eq (List.forall_mem_flatMap.mpr fun node _ request hrequest => ?_)
    obtain ⟨_, _, _, rfl⟩ := exists_of_mem_groupRequest? hrequest
    rfl
  have hedges : Spans 2 2 (model.edges.flatMap model.edgeRequests) := by
    refine Spans.of_stage_eq (List.forall_mem_flatMap.mpr fun edge _ => ?_)
    refine List.forall_mem_flatMap.mpr fun source _ => ?_
    exact List.forall_mem_map.mpr fun _ _ => rfl
  have hnodes := hsingle.append hgroups (by omega) (by omega) (by omega)
  exact hnodes.append hedges (by omega) (by omega) (by omega)

/-- What comes after the parameters goes through the last stages in order. -/
theorem spans_finalRequests : Spans 4 6 model.finalRequests := by
  have hrecorders : Spans 4 4 (model.recorders.entities.map model.recorderRequest) :=
    Spans.of_stage_eq (List.forall_mem_map.mpr fun _ _ => rfl)
  have houtputs : Spans 5 5 (model.outputs.entities.map model.outputRequest) :=
    Spans.of_stage_eq (List.forall_mem_map.mpr fun _ _ => rfl)
  have hlimits : Spans 6 6 (model.nodes.entities.flatMap constraintRequests) := by
    refine Spans.of_stage_eq (List.forall_mem_flatMap.mpr fun node _ request hrequest => ?_)
    rcases exists_of_mem_constraintRequests hrequest with ⟨_, _, rfl⟩ | ⟨_, _, _, rfl⟩
    · rfl
    · rfl
  have hrest := houtputs.append hlimits (by omega) (by omega) (by omega)
  exact hrecorders.append hrest (by omega) (by omega) (by omega)

theorem phase_ne_parameters_of_stage_ne {request : Request} (h : request.stage ≠ 3) :
    request.phase ≠ .parameters := by
  cases request with
  | createParameter _ _ _ => exact absurd rfl h
  | _ => exact fun hphase => by cases hphase

/-- A build halts at the first refusal that it cannot wait out, in whatever phase. -/
theorem Built.halts {transcript : List Exchange} {result : Except ModelError BuildReport}
    (h : model.Built transcript result) : Halts transcript result := by
  -- only resolution may go on after a refusal, and nothing else asks for parameters
  have hnetwork : ∀ request ∈ model.networkRequests, request.phase ≠ .parameters := by
    intro request hrequest
    have hstage := spans_networkRequests.bounds request hrequest
    exact phase_ne_parameters_of_stage_ne (by omega)
  have hfinal : ∀ request ∈ model.finalRequests, request.phase ≠ .parameters := by
    intro request hrequest
    have hstage := spans_finalRequests.bounds request hrequest
    exact phase_ne_parameters_of_stage_ne (by omega)
  cases h with
  | unfounded network => exact (network.halts hnetwork).of_error
  | unresolved course => exact .append (passed_grants _) course.halts.of_error
  | unfinished course final =>
    exact .append (passed_grants _) (.append course.halts.of_ok (final.halts hfinal).of_error)
  | @finished xs resolution course =>
    have hfinished := Halts.passed (passed_grants model.finalRequests)
      (not_blames_ok (model.report resolution))
    exact .append (passed_grants _) (.append course.halts.of_ok hfinished)

/-- A build never goes back to a phase that it has left. -/
theorem Built.spans {transcript : List Exchange} {result : Except ModelError BuildReport}
    (h : model.Built transcript result) : Spans 0 6 (transcript.map Exchange.request) := by
  -- resolution only asks for parameters, whichever way it ends
  have hcourse {xs : List Exchange} {result : Except ModelError Resolution}
      (course : Course model.specContext model.parameters xs result) :
      Spans 3 3 (xs.map Exchange.request) := by
    refine Spans.of_stage_eq (List.forall_mem_map.mpr fun exchange hexchange => ?_)
    obtain ⟨_, _, p, _, hrequest⟩ := course.requests exchange hexchange
    rw [hrequest]
    rfl
  have hupto {xs : List Exchange} {result : Except ModelError Resolution}
      (course : Course model.specContext model.parameters xs result) :
      Spans 0 3 (model.networkRequests ++ xs.map Exchange.request) :=
    spans_networkRequests.append (hcourse course) (by omega) (by omega) (by omega)
  have hall {xs : List Exchange} {result : Except ModelError Resolution} {final : List Request}
      (course : Course model.specContext model.parameters xs result)
      (hfinal : final <+: model.finalRequests) :
      Spans 0 6 (model.networkRequests ++ (xs.map Exchange.request ++ final)) := by
    rw [← List.append_assoc]
    exact (hupto course).append (spans_finalRequests.restrict hfinal) (by omega) (by omega)
      (by omega)
  -- what was asked for begins the list of all requests, which stand in the order of the phases
  cases h with
  | unfounded network =>
    have hnetwork := spans_networkRequests.restrict network.prefix_requests
    exact hnetwork.widen (by omega)
  | unresolved course =>
    rw [List.map_append, Exchange.map_request_map_grant]
    exact (hupto course).widen (by omega)
  | unfinished course final =>
    rw [List.map_append, List.map_append, Exchange.map_request_map_grant]
    exact hall course final.prefix_requests
  | finished course =>
    rw [List.map_append, List.map_append, Exchange.map_request_map_grant,
      Exchange.map_request_map_grant]
    exact hall course List.prefix_rfl

def runRequest (model : Model) (solver : String) : Request :=
  .run solver model.timestepper.start model.timestepper.stop model.timestepper.timestep

end Model

open Build

/-- What can be said of the conversation of a build with its engine, and of its result. -/
structure FailStop {α : Type} (transcript : List Exchange) (result : Except ModelError α) :
    Prop where
  /-- The stages never go backwards. -/
  forward : transcript.Pairwise fun earlier later =>
    earlier.request.stage ≤ later.request.stage
  /-- Each answer but the last grants the request, or puts a parameter off. -/
  passed : ∀ exchange ∈ transcript.dropLast, exchange.Passed
  /-- The engine is the reason of an error only where its last answer is that reason. -/
  blamed : ∀ phase entity source, result = .error (.engine phase entity source) →
    ∃ before request, transcript = before ++ [{ request, answer := .error source }] ∧
      request.phase = phase
  /-- A refusal ends the build, unless it puts a parameter off. -/
  fatal : ∀ request source, { request, answer := .error source } ∈ transcript →
    (request.phase ≠ .parameters ∨
      ∀ parameter missing, source ≠ .dependencyNotFound parameter missing) →
    (∃ before, transcript = before ++ [{ request, answer := .error source }]) ∧
      ∃ entity, result = .error (.engine request.phase entity source)
  /-- Whenever the engine is not the reason, all that it has refused are parameters put off. -/
  own : ¬Blames result → ∀ exchange ∈ transcript, exchange.Passed

/-- What halts at a refusal and goes through the phases in order stops there for good. -/
theorem failStop_of_halts {α : Type} {transcript : List Exchange} {result : Except ModelError α}
    {first last : ℕ} (hhalts : Halts transcript result)
    (hspans : Spans first last (transcript.map Exchange.request)) : FailStop transcript result := by
  have hforward := List.pairwise_map.mp hspans.forward
  -- either every exchange was passed, or the last one is what the error is about
  cases hhalts with
  | passed all own =>
    exact {
      forward := hforward
      passed := fun exchange hexchange => all exchange (List.mem_of_mem_dropLast hexchange)
      blamed := fun phase entity source hresult => absurd ⟨phase, entity, source, hresult⟩ own
      fatal := fun request source hmem hfatal =>
        absurd (all _ hmem) (Exchange.not_passed_of_refused hfatal)
      own := fun _ => all }
  | @refused before request entity source earlier fatal =>
    exact {
      forward := hforward
      passed := by rwa [List.dropLast_concat]
      blamed := by
        intro phase entity' source' hresult
        cases hresult
        exact ⟨before, request, rfl, rfl⟩
      fatal := by
        intro request' source' hmem hfatal
        rcases List.mem_append.mp hmem with hmem | hmem
        · exact absurd (earlier _ hmem) (Exchange.not_passed_of_refused hfatal)
        · cases List.mem_singleton.mp hmem
          exact ⟨⟨before, rfl⟩, entity, rfl⟩
      own := fun hown => absurd ⟨_, _, _, rfl⟩ hown }

/-- Whatever an engine answers, a build goes through its stages in order and stops at the first
refusal that it cannot wait out; and a run is asked for once, last of all, just when the build has
come to its end. -/
theorem build_fail_stop {σ : Type} (engine : Engine σ) (state : σ) (model : Model)
    (solver : String) :
    ∃ transcript result last,
      Runs (fun _ engine => model.build engine) engine state transcript result last ∧
      FailStop transcript result ∧
      (∀ exchange ∈ transcript, exchange.request.phase ≠ .run) ∧
      (∀ e, result = .error e →
        Runs (fun _ engine => model.run engine solver) engine state transcript (.error e) last) ∧
      ∀ report, result = .ok report → ∃ answer final,
        Runs (fun _ engine => model.run engine solver) engine state
          (transcript ++ [{ request := model.runRequest solver, answer }])
          ((answer.mapError (.engine .run solver)).map fun _ => report) final := by
  obtain ⟨transcript, result, last, hruns, hbuilt⟩ :=
    model.follows_build.exists_runs engine state
  have hspans := hbuilt.spans
  refine ⟨transcript, result, last, hruns, failStop_of_halts hbuilt.halts hspans, ?_, ?_, ?_⟩
  · intro exchange hexchange hphase
    -- all requests of the build belong to stages before that of the run
    have hstage := (hspans.bounds _ (List.mem_map_of_mem hexchange)).2
    cases hrequest : exchange.request with
    | run _ _ _ _ =>
      rw [hrequest] at hstage
      change 7 ≤ 6 at hstage
      omega
    | _ =>
      rw [hrequest] at hphase
      cases hphase
  · rintro e rfl
    exact hruns.bind_error
  · rintro report rfl
    -- after the build, a run is one more request, whose answer decides
    have hrun : Follows
        (fun _ engine => do
          Logged.note .info ("Running " ++ toString model.timestepper.stepCount ++
            " timestep(s) from " ++ model.timestepper.start.text ++ " to " ++
            model.timestepper.stop.text ++ " with " ++ solver)
          engine.demand .run solver (model.runRequest solver)
          pure report)
        fun xs result => ∃ answer,
          xs = [{ request := model.runRequest solver, answer }] ∧
            result = (answer.mapError (.engine .run solver)).map fun _ => report := by
      refine ((Follows.demand .run solver (model.runRequest solver)).bind_pure ?_).note_bind _ _
      rintro _ _ ⟨answer, rfl, rfl⟩
      exact ⟨answer, rfl, rfl⟩
    obtain ⟨_, _, final, hruns', answer, rfl, rfl⟩ := hrun.exists_runs engine last
    exact ⟨answer, final, hruns.bind hruns'⟩

end FlowPlan
