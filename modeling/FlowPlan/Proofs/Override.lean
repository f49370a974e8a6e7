import FlowPlan.Proofs.Agreement
import FlowPlan.Proofs.Commands
import FlowPlan.Proofs.History
import FlowPlan.Proofs.OrderFreedom

namespace FlowPlan

namespace Path

theorem isAbsolute_append {path : String} (h : isAbsolute path = true) (rest : String) :
    isAbsolute (path ++ rest) = true := by
  unfold isAbsolute at h ⊢
  rw [String.startsWith_string_iff] at h ⊢
  rw [String.toList_append]
  exact h.trans (List.prefix_append _ _)

/-- What is joined to an absolute path is absolute. -/
theorem isAbsolute_join {base : String} (h : isAbsolute base = true) (path : String) :
    isAbsolute (join base path) = true := by
  have hbase : ¬base.isEmpty = true := by
    intro hempty
    rw [String.isEmpty_iff.mp hempty] at h
    cases h
  unfold join
  by_cases hpath : isAbsolute path = true
  · rwa [if_pos (Or.inl hpath)]
  · rw [if_neg (not_or.mpr ⟨hpath, hbase⟩)]
    split
    · exact isAbsolute_append h path
    · exact isAbsolute_append (isAbsolute_append h "/") path

end Path

/-- Whether an error ends a build before its outputs are created. -/
def ModelError.BeforeOutputs (e : ModelError) : Prop :=
  ∀ phase entity source, e = .engine phase entity source →
    phase.rank < BuildPhase.rank .outputs

namespace Model

open Build Resolution

/-- Whether a model is built on a new plan just as another one, but for a call that creates an
output after those of the other. -/
structure BuiltWithOutput (model extended : Model) (call : Call) (solvers : List String) :
    Prop where
  succeeds_iff : Succeeds (extended.build Plan.engine) (Plan.new solvers) ↔
    Succeeds (model.build Plan.engine) (Plan.new solvers)
  -- the report counts one output more, and the calls are the same up to the new one
  finished : ∀ report last,
    outcome (model.build Plan.engine) (Plan.new solvers) = (.ok report, last) →
      ∃ last' earlier, outcome (extended.build Plan.engine) (Plan.new solvers) =
          (.ok { report with outputs := report.outputs + 1 }, last') ∧
        (∀ other ∈ earlier, other.phase.rank < BuildPhase.rank .outputs) ∧
        last.calls = earlier ++ model.outputs.entities.map model.outputCall ++ model.limitCalls ∧
        last'.calls = earlier ++ model.outputs.entities.map model.outputCall ++ [call] ++
          model.limitCalls
  /-- A failure is the same, and so is the plan, unless outputs have been created. -/
  failed : ∀ e last,
    outcome (model.build Plan.engine) (Plan.new solvers) = (.error e, last) →
      ∃ last', outcome (extended.build Plan.engine) (Plan.new solvers) = (.error e, last') ∧
        (e.BeforeOutputs → last' = last) ∧
        (last' = last ∨ ∃ earlier later,
          last.calls = earlier ++ model.outputs.entities.map model.outputCall ++ later ∧
          last'.calls = earlier ++ model.outputs.entities.map model.outputCall ++ [call] ++ later)

def beforeOutputs {σ : Type} (engine : Engine σ) (model : Model) : Build σ Resolution := do
  model.createNodes engine
  model.createEdges engine
  let resolution ← model.createParameters engine
  model.createRecorders engine
  return resolution

variable (model : Model)

/-- A build in three parts, of which the outputs are the second one. -/
theorem outcome_build (plan : Plan) :
    outcome (model.build Plan.engine) plan =
      match outcome (model.beforeOutputs Plan.engine) plan with
      | (.error e, next) => (.error e, next)
      | (.ok resolution, next) =>
        match outcome (model.createOutputs Plan.engine) next with
        | (.error e, next) => (.error e, next)
        | (.ok (), next) =>
          match outcome (model.applyConstraints Plan.engine) next with
          | (.error e, last) => (.error e, last)
          | (.ok (), last) => (.ok (model.report resolution), last) := by
  have hbuild : model.build Plan.engine = (do
      let resolution ← model.beforeOutputs Plan.engine
      model.createOutputs Plan.engine
      model.applyConstraints Plan.engine
      model.concludeBuild resolution) := by
    rw [build_eq]
    unfold beforeOutputs
    simp only [bind_assoc, pure_bind]
  -- the stages are run one after the other, and the first failure ends the build
  rw [hbuild, outcome_bind]
  rcases outcome (model.beforeOutputs Plan.engine) plan with ⟨_ | resolution, next⟩
  · rfl
  dsimp only
  rw [outcome_bind]
  rcases outcome (model.createOutputs Plan.engine) next with ⟨_ | _, next⟩
  · rfl
  dsimp only
  rw [outcome_bind]
  rcases outcome (model.applyConstraints Plan.engine) next with ⟨_ | _, last⟩
  · rfl
  · exact model.outcome_concludeBuild resolution last

/-- Whether all that is asked for belongs to phases of a build before the outputs. -/
def AsksBeforeOutputs (transcript : List Exchange) : Prop :=
  ∀ exchange ∈ transcript, exchange.request.phase.rank < BuildPhase.rank .outputs

theorem asksBeforeOutputs_of_demanded {part : Build.Part Unit} {requests : List Request}
    {phase : BuildPhase} (h : Follows part (Demanded requests))
    (hphase : ∀ request ∈ requests, request.phase = phase)
    (hrank : phase.rank < BuildPhase.rank .outputs) :
    Follows part fun transcript _ => AsksBeforeOutputs transcript := by
  refine h.mono fun transcript _ hdemanded exchange hexchange => ?_
  have hmem := hdemanded.prefix_requests.subset (List.mem_map_of_mem hexchange)
  rwa [hphase _ hmem]

/-- What comes before the outputs asks for nothing of the phases from there on. -/
theorem follows_beforeOutputs :
    Follows (fun _ engine => model.beforeOutputs engine)
      fun transcript _ => AsksBeforeOutputs transcript := by
  have hnodes := asksBeforeOutputs_of_demanded model.follows_createNodes
    phase_of_mem_nodeRequests (by decide)
  have hedges := asksBeforeOutputs_of_demanded model.follows_createEdges
    phase_of_mem_edgeRequests (by decide)
  have hrecorders := asksBeforeOutputs_of_demanded model.follows_createRecorders
    (List.forall_mem_map.mpr fun _ _ => rfl) (by decide)
  have hparameters : Follows (fun _ engine => model.createParameters engine)
      fun transcript _ => AsksBeforeOutputs transcript := by
    refine model.follows_createParameters.mono ?_
    intro transcript _ hcourse exchange hexchange
    obtain ⟨_, _, p, _, hrequest⟩ := hcourse.requests exchange hexchange
    rw [hrequest]
    change BuildPhase.rank .parameters < BuildPhase.rank .outputs
    decide
  -- what holds of every exchange of two parts holds of those of both together
  have hboth {α : Type} : ∀ (xs : List Exchange) (a : α) (ys : List Exchange)
      (result : Except ModelError Resolution), AsksBeforeOutputs xs → AsksBeforeOutputs ys →
        AsksBeforeOutputs (xs ++ ys) :=
    fun _ _ _ _ hxs hys => List.forall_mem_append.mpr ⟨hxs, hys⟩
  have herror (xs : List Exchange) (e : ModelError) (hxs : AsksBeforeOutputs xs) :
      AsksBeforeOutputs xs := hxs
  unfold beforeOutputs
  refine hnodes.bind (fun _ => ?_) hboth herror
  refine hedges.bind (fun _ => ?_) hboth herror
  refine hparameters.bind (fun resolution => ?_) hboth herror
  exact hrecorders.bind_pure fun _ _ h => h

/-- The plan after what comes before the outputs has none, and no calls that belong to them. -/
theorem early_of_beforeOutputs {solvers : List String} {resolution : Resolution} {next : Plan}
    (h : outcome (model.beforeOutputs Plan.engine) (Plan.new solvers) = (.ok resolution, next)) :
    next.outputs = [] ∧ ∀ call ∈ next.calls, call.phase.rank < BuildPhase.rank .outputs := by
  obtain ⟨transcript, result, last, hruns, hearly⟩ :=
    model.follows_beforeOutputs.exists_runs Plan.engine (Plan.new solvers)
  have hsame := hruns.outcome_eq.symm.trans h
  obtain ⟨rfl, rfl⟩ := Prod.mk.inj hsame
  obtain ⟨-, hlast⟩ := Plan.admits_of_answers hruns.answers
  have hgranted : ∀ request ∈ transcript.filterMap Exchange.granted?,
      request.phase.rank < BuildPhase.rank .outputs := by
    intro request hrequest
    obtain ⟨exchange, hexchange, hgranted⟩ := List.mem_filterMap.mp hrequest
    rw [← Exchange.request_eq_of_granted? hgranted]
    exact hearly exchange hexchange
  constructor
  · rw [hlast, Plan.outputs_addAll, List.filterMap_eq_nil_iff.mpr]
    · rfl
    · intro request hrequest
      have hrank := hgranted request hrequest
      -- outputs are only requested in their own phase
      cases request with
      | createOutput name kind spec => exact absurd hrank (lt_irrefl _)
      | _ => rfl
  · rw [hlast, Plan.calls_addAll]
    refine List.forall_mem_append.mpr ⟨List.forall_mem_nil _, List.forall_mem_map.mpr ?_⟩
    intro request hrequest
    rw [Call.phase_ofRequest]
    exact hgranted request hrequest

/-- Costs and bounds are set the same way on two plans that have the same verdicts on them. -/
theorem agrees_applyConstraints {first second : Plan}
    (hcheck : ∀ request, request.Silent → first.check request = second.check request) :
    Agrees first second (model.applyConstraints Plan.engine) := by
  refine (Agrees.forM fun node hnode => Agrees.forM fun request hrequest => ?_).bind
    fun _ => Agrees.note _ _
  have hsilent := silent_of_mem_limitRequests request
    (List.mem_flatMap.mpr ⟨node, hnode, hrequest⟩)
  exact Agrees.demand hsilent (hcheck request hsilent) _ _

/-- The outputs are all created, and only the costs and bounds can still fail. -/
theorem outcome_build_of_beforeOutputs {solvers : List String} {resolution : Resolution}
    {next filled last : Plan} {result : Except ModelError Unit}
    (hbefore : outcome (model.beforeOutputs Plan.engine) (Plan.new solvers) =
      (.ok resolution, next))
    (hfilled : next.addAll (model.outputs.entities.map model.outputRequest) = filled)
    (hlimits : outcome (model.applyConstraints Plan.engine) filled = (result, last)) :
    outcome (model.build Plan.engine) (Plan.new solvers) =
      (result.map fun _ => model.report resolution, last) := by
  have hnew := (model.early_of_beforeOutputs hbefore).1
  -- outputs are never refused in a plan that has none
  have houtputs := model.demands_createOutputs.granted next (admits_outputRequests model hnew)
  rw [hfilled] at houtputs
  simp only [outcome_build, hbefore, houtputs, hlimits]
  cases result with
  | error e => rfl
  | ok _ => rfl

/-- When all costs and bounds are set, the calls that came with them are those of the model. -/
theorem calls_of_applyConstraints {plan : Plan} {calls : List Call}
    (h : outcome (model.applyConstraints Plan.engine) plan = (.ok (), plan.withCalls calls)) :
    calls = model.limitCalls := by
  rcases outcome_of_follows model.follows_applyConstraints plan with
    ⟨-, hgranted⟩ | ⟨_, _, herror, -⟩
  · have hplan := (Prod.mk.inj (h.symm.trans hgranted)).2
    have hcalls : plan.calls ++ calls = plan.calls ++ model.limitCalls := by
      rw [← map_ofRequest_limitRequests, ← Plan.calls_addAll, ← hplan]
      rfl
    exact List.append_cancel_left hcalls
  · rw [herror] at h
    cases h

/-- An error among the costs and bounds is no error from before the outputs. -/
theorem not_beforeOutputs_of_applyConstraints {plan last : Plan} {e : ModelError}
    (h : outcome (model.applyConstraints Plan.engine) plan = (.error e, last)) :
    ¬e.BeforeOutputs := by
  rcases outcome_of_follows model.follows_applyConstraints plan with
    ⟨-, hgranted⟩ | ⟨_, _, herror, hrefused⟩
  · rw [hgranted] at h
    cases h
  · rw [herror] at h
    cases h
    cases hrefused with
    | @intro before after request entity source split granted refused =>
      intro hbefore
      -- the refused request is one of the limits, which come after the outputs
      have hphase : request.phase = .constraints :=
        phase_of_mem_limitRequests request (by rw [split]; simp)
      have hrank := hbefore _ _ _ rfl
      rw [hphase] at hrank
      exact absurd hrank (by decide)

variable {model} {extended : Model} {output : Output} {call : Call} {solvers : List String}

/-- Two builds that fail in the same way are alike, but for no call. -/
theorem BuiltWithOutput.of_error {e : ModelError} {last : Plan}
    (h : outcome (model.build Plan.engine) (Plan.new solvers) = (.error e, last))
    (hextended : outcome (extended.build Plan.engine) (Plan.new solvers) = (.error e, last)) :
    BuiltWithOutput model extended call solvers where
  succeeds_iff := by
    unfold Succeeds
    rw [h, hextended]
  finished := by
    intro report last' hfinished
    rw [h] at hfinished
    cases hfinished
  failed := by
    intro e' last' hfailed
    rw [h] at hfailed
    cases hfailed
    exact ⟨last, hextended, fun _ => rfl, .inl rfl⟩

/-- Once the other outputs are created, one more makes for one more call. -/
theorem BuiltWithOutput.of_applyConstraints {resolution : Resolution} {next extra : Plan}
    {result : Except ModelError Unit} {calls later : List Call}
    (hcalls : next.calls = calls ++ model.outputs.entities.map model.outputCall)
    (hextra : extra.calls = next.calls ++ [call])
    (hearly : ∀ other ∈ calls, other.phase.rank < BuildPhase.rank .outputs)
    (hlimits : outcome (model.applyConstraints Plan.engine) next = (result, next.withCalls later))
    (h : outcome (model.build Plan.engine) (Plan.new solvers) =
      (result.map fun _ => model.report resolution, next.withCalls later))
    (hextended : outcome (extended.build Plan.engine) (Plan.new solvers) =
      (result.map fun _ => { model.report resolution with outputs := model.outputs.size + 1 },
        extra.withCalls later)) : BuiltWithOutput model extended call solvers where
  -- the limits decide, and they end alike on both plans
  succeeds_iff := by
    unfold Succeeds
    rw [h, hextended]
    cases result with
    | error e => exact iff_of_false nofun nofun
    | ok _ => exact iff_of_true ⟨_, rfl⟩ ⟨_, rfl⟩
  finished := by
    intro report last hfinished
    rw [h] at hfinished
    cases result with
    | error e => cases hfinished
    | ok _ =>
      cases hfinished
      have hlater := model.calls_of_applyConstraints hlimits
      refine ⟨extra.withCalls later, calls, hextended, hearly, ?_, ?_⟩
      · rw [Plan.withCalls, hcalls, hlater]
      · rw [Plan.withCalls, hextra, hcalls, hlater]
  failed := by
    intro e last hfailed
    rw [h] at hfailed
    cases result with
    | ok _ => cases hfailed
    | error e =>
      cases hfailed
      refine ⟨extra.withCalls later, hextended, fun hbefore => ?_, .inr ⟨calls, later, ?_, ?_⟩⟩
      · exact absurd hbefore (model.not_beforeOutputs_of_applyConstraints hlimits)
      · rw [Plan.withCalls, hcalls]
      · rw [Plan.withCalls, hextra, hcalls]

/-- Whatever output is added to a model, its build has one more call, or fails as before. -/
theorem builtWithOutput_of_addOutput (h : model.addOutput output = .ok extended)
    (solvers : List String) :
    BuiltWithOutput model extended (model.outputCall output) solvers := by
  obtain ⟨outputs, hinsert, hextended⟩ := bind_eq_ok_iff.mp h
  cases hextended
  have hentities := Collection.insert_eq_ok_iff.mp hinsert
  rcases hbefore : outcome (model.beforeOutputs Plan.engine) (Plan.new solvers) with
    ⟨e | resolution, next⟩
  · -- what comes before the outputs is the same for both models
    have hbuild (other : Model)
        (hother : other.beforeOutputs Plan.engine = model.beforeOutputs Plan.engine) :
        outcome (other.build Plan.engine) (Plan.new solvers) = (.error e, next) := by
      rw [outcome_build, hother, hbefore]
    exact .of_error (hbuild model rfl) (hbuild _ rfl)
  · let filled := next.addAll (model.outputs.entities.map model.outputRequest)
    let extra := filled.add (model.outputRequest output)
    have hextra : next.addAll (outputs.entities.map model.outputRequest) = extra := by
      rw [hentities, List.map_append, Plan.addAll_append]
      rfl
    -- limits never look at outputs, so one output more makes no difference to them
    have hagrees : Agrees filled extra (model.applyConstraints Plan.engine) :=
      model.agrees_applyConstraints fun _ hsilent => Plan.check_eq_of_silent hsilent rfl rfl rfl
    obtain ⟨result, later, hfirst, hsecond⟩ := hagrees.exists_outcome []
    rw [Plan.withCalls_nil] at hfirst hsecond
    have hreport : ({ model with outputs } : Model).report resolution =
        { model.report resolution with outputs := model.outputs.size + 1 } := by
      have hsize : outputs.size = model.outputs.size + 1 := by
        rw [Collection.size, hentities, List.length_append]
        rfl
      rw [← hsize]
      rfl
    have hbuild := model.outcome_build_of_beforeOutputs hbefore rfl hfirst
    have hextended := outcome_build_of_beforeOutputs { model with outputs } hbefore hextra hsecond
    rw [hreport] at hextended
    have hcalls : filled.calls = next.calls ++ model.outputs.entities.map model.outputCall := by
      rw [Plan.calls_addAll, map_ofRequest_outputRequests]
    have hlast : extra.calls = filled.calls ++ [model.outputCall output] := by
      rw [← model.ofRequest_outputRequest]
      rfl
    exact .of_applyConstraints hcalls hlast (model.early_of_beforeOutputs hbefore).2 hfirst hbuild
      hextended

end Model

namespace CommandLine

open Model

/-- The file that the command line asks for: an absolute one as it is, and any other one as seen
from the working directory. -/
def overrideFile (directory file : String) : String :=
  if Path.isAbsolute file then file else Path.join directory file

/-- From a known working directory each file is found. -/
theorem locate_of_known {host : Host} {directory : String} (h : host.directory = .ok directory)
    (file : String) : host.locate file = .ok (overrideFile directory file) := by
  unfold Host.locate overrideFile
  rw [h]
  split
  · rfl
  · rfl

/-- Without a working directory there is no way to a relative file. -/
theorem locate_of_unknown {host : Host} {failure : ReadFailure}
    (h : host.directory = .error failure) {file : String} (hfile : Path.isAbsolute file = false) :
    host.locate file = .error (.unreadable file failure) := by
  unfold Host.locate
  rw [h, hfile]
  rfl

theorem isAbsolute_overrideFile {directory : String} (h : Path.isAbsolute directory = true)
    (file : String) : Path.isAbsolute (overrideFile directory file) = true := by
  unfold overrideFile
  split
  · assumption
  · exact Path.isAbsolute_join h file

/-- Wherever the model is, its build finds the file where the command line wants it. -/
theorem outputCall_overrideOutput {directory : String} (h : Path.isAbsolute directory = true)
    (model : Model) (file : String) :
    model.outputCall (overrideOutput (overrideFile directory file)) =
      .createOutput "cli-output" "HDF5" [overrideFile directory file] :=
  congrArg (fun path => Call.createOutput "cli-output" "HDF5" [path])
    (if_pos (isAbsolute_overrideFile h file))

/-- The output that the command line asks for is refused when its name is taken, and the outputs
stay as they are. Otherwise it changes one call of a build, and no more. -/
theorem override_adds_one_call {host : Host} {directory : String}
    (hknown : host.directory = .ok directory) (hdirectory : Path.isAbsolute directory = true)
    (model : Model) (file : String) (solvers : List String) :
    (model.outputs.contains "cli-output" = true →
      model.addOutput (overrideOutput (overrideFile directory file)) =
        .error (.duplicateName .outputs "cli-output") ∧
      Keyed.insert model.outputs.keyed (overrideOutput (overrideFile directory file)) =
        (.error (.duplicateName .outputs "cli-output"), model.outputs.keyed)) ∧
    (model.outputs.contains "cli-output" = false → ∃ extended,
      model.addOutput (overrideOutput (overrideFile directory file)) = .ok extended ∧
      BuiltWithOutput model extended
        (.createOutput "cli-output" "HDF5"
          [if Path.isAbsolute file then file else Path.join directory file]) solvers) ∧
    ∀ strictness path, loadModel host strictness path (some file) =
      loadModel host strictness path none >>= fun loaded =>
        liftM (loaded.addOutput (overrideOutput (overrideFile directory file))) := by
  have htaken : Entity.name (overrideOutput (overrideFile directory file)) ∈ model.outputs.names ↔
      model.outputs.contains "cli-output" = true := List.contains_iff_mem.symm
  -- the name is taken, or it is new; whether the model loads has nothing to do with the override
  refine ⟨fun hcontains => ?_, fun hnew => ?_, fun strictness path => ?_⟩
  · have hinsert : model.outputs.insert (overrideOutput (overrideFile directory file)) =
        .error (.duplicateName .outputs "cli-output") :=
      Collection.insert_eq_error_iff.mpr ⟨htaken.mpr hcontains, rfl⟩
    refine ⟨bind_eq_error_iff.mpr (.inl hinsert), ?_⟩
    rw [Collection.keyed_insert, hinsert]
  · cases hinsert : model.outputs.insert (overrideOutput (overrideFile directory file)) with
    | error e =>
      rw [htaken.mp (Collection.insert_eq_error_iff.mp hinsert).1] at hnew
      cases hnew
    | ok outputs =>
      have hadded : model.addOutput (overrideOutput (overrideFile directory file)) =
          .ok { model with outputs } := bind_eq_ok_iff.mpr ⟨outputs, hinsert, rfl⟩
      have hbuilt := builtWithOutput_of_addOutput hadded solvers
      rw [outputCall_overrideOutput hdirectory] at hbuilt
      exact ⟨_, hadded, hbuilt⟩
  · have hnone : loadModel host strictness path none =
        Model.loadFile host.files strictness path := by
      rw [loadModel_eq]
      exact bind_pure _
    rw [loadModel_eq, hnone]
    unfold override
    simp only [locate_of_known hknown]
    rfl

def wellspring : Document :=
  .mapping [
    ("timestepper", .mapping [("start", .text "2020-01-01"), ("end", .text "2020-01-31"),
      ("timestep", .number (.integer 1))]),
    ("nodes", .sequence [
      .mapping [("type", .text "Input"), ("name", .text "spring"), ("cost", .real 1)]]),
    ("outputs", .sequence [
      .mapping [("type", .text "CSV"), ("name", .text "daily"),
        ("filename", .text "daily.csv")]])]

theorem override_adds_one_call_wellspring :
    ∃ loaded model extended, load? .strict wellspring = .ok loaded ∧
      model = { loaded with path := some "models" } ∧
      model.addOutput (overrideOutput "/work/out.h5") = .ok extended ∧
      BuiltWithOutput model extended (.createOutput "cli-output" "HDF5" ["/work/out.h5"])
        Plan.defaultSolvers ∧
      extended.addOutput (overrideOutput "/tmp/out.h5") =
        .error (.duplicateName .outputs "cli-output") := by
  have hnew : ((load? .strict wellspring).toOption.map fun loaded =>
      loaded.outputs.contains "cli-output") = some false := by decide +kernel
  obtain ⟨loaded, hload, hnew⟩ := map_toOption_eq_some_iff.mp hnew
  let host : Host := { files := fun _ => .error .notFound, directory := "/work" }
  have hknown : host.directory = .ok "/work" := rfl
  have hdirectory : Path.isAbsolute "/work" = true := by decide +kernel
  have hrelative : (if Path.isAbsolute "out.h5" then "out.h5" else Path.join "/work" "out.h5") =
      "/work/out.h5" := by decide +kernel
  have hinside : overrideFile "/work" "out.h5" = "/work/out.h5" := hrelative
  have helsewhere : overrideFile "/work" "/tmp/out.h5" = "/tmp/out.h5" := by decide +kernel
  let model : Model := { loaded with path := some "models" }
  obtain ⟨-, hadds, -⟩ :=
    override_adds_one_call hknown hdirectory model "out.h5" Plan.defaultSolvers
  obtain ⟨extended, hadded, hbuilt⟩ := hadds hnew
  rw [hrelative] at hbuilt
  rw [hinside] at hadded
  -- the output that has been added takes its name
  obtain ⟨outputs, hinsert, hextended⟩ := bind_eq_ok_iff.mp hadded
  cases hextended
  have hmem : overrideOutput "/work/out.h5" ∈ outputs.entities := by
    rw [Collection.insert_eq_ok_iff.mp hinsert]
    exact List.mem_append_right _ List.mem_cons_self
  have htaken : outputs.contains "cli-output" = true :=
    Collection.contains_iff.mpr ⟨_, hmem, rfl⟩
  obtain ⟨hrefuses, -, -⟩ := override_adds_one_call hknown hdirectory { model with outputs }
    "/tmp/out.h5" Plan.defaultSolvers
  rw [helsewhere] at hrefuses
  exact ⟨loaded, model, _, hload, rfl, hadded, hbuilt, (hrefuses htaken).1⟩

end CommandLine

end FlowPlan
