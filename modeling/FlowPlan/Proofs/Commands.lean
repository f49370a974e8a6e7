import FlowPlan.CommandLine.Execute
import FlowPlan.Proofs.Ledger
import FlowPlan.Proofs.Loads
import FlowPlan.Proofs.Protocol

namespace FlowPlan

/-- Whether the first of two characters is an ASCII capital, and the second one its small letter. -/
def IsCapitalOf (c d : Char) : Prop :=
  65 ≤ c.toNat ∧ c.toNat ≤ 90 ∧ d.toNat = c.toNat + 32

/-- Whether two texts are the same up to the case of ASCII letters. -/
def SameButCase (a b : String) : Prop :=
  List.Forall₂ (fun c d => c = d ∨ IsCapitalOf c d ∨ IsCapitalOf d c) a.toList b.toList

theorem toNat_toLower (c : Char) :
    c.toLower.toNat = if 65 ≤ c.toNat ∧ c.toNat ≤ 90 then c.toNat + 32 else c.toNat := by
  have hrange : (c.val ≥ 'A'.val ∧ c.val ≤ 'Z'.val) ↔ 65 ≤ c.toNat ∧ c.toNat ≤ 90 := Iff.rfl
  unfold Char.toLower
  by_cases hcapital : 65 ≤ c.toNat ∧ c.toNat ≤ 90
  · rw [dif_pos (hrange.mpr hcapital), if_pos hcapital]
    show (c.val + 32).toNat = c.val.toNat + 32
    have hsmall : c.val.toNat ≤ 90 := hcapital.2
    rw [UInt32.toNat_add, Nat.mod_eq_of_lt]
    · rfl
    · change c.val.toNat + 32 < 2 ^ 32
      omega
  · rw [dif_neg (mt hrange.mp hcapital), if_neg hcapital]

/-- Two characters are the same in lower case when they are equal or one is the capital of the
other. -/
theorem toLower_eq_toLower_iff {c d : Char} :
    c.toLower = d.toLower ↔ c = d ∨ IsCapitalOf c d ∨ IsCapitalOf d c := by
  rw [← Char.toNat_inj, ← Char.toNat_inj, toNat_toLower, toNat_toLower]
  unfold IsCapitalOf
  split <;> split <;> omega

theorem sameButCase_iff {a b : String} : SameButCase a b ↔ a.toLower = b.toLower := by
  unfold SameButCase String.toLower
  simp only [← toLower_eq_toLower_iff]
  rw [← String.toList_inj, String.toList_map, String.toList_map, ← List.forall₂_eq_eq_eq,
    List.forall₂_map_left_iff, List.forall₂_map_right_iff]

namespace Load

variable {α β : Type}

/-- A failure ends a load: what was to follow is neither reached nor logged. -/
theorem run_bind_of_error {x : Load α} {e : ModelError} (h : x.run.value = .error e)
    (f : α → Load β) : (x >>= f).run = ⟨.error e, x.run.log⟩ := by
  rw [ExceptT.run_bind]
  cases hx : x.run with
  | mk value log =>
  rw [hx] at h
  cases h
  show (⟨.error e, log ++ []⟩ : Logged (Except ModelError β)) = ⟨.error e, log⟩
  rw [List.append_nil]

/-- A load that succeeds is followed by what comes next, in its result and in its log. -/
theorem run_bind_of_ok {x : Load α} {a : α} (h : x.run.value = .ok a) (f : α → Load β) :
    (x >>= f).run = ⟨(f a).run.value, x.run.log ++ (f a).run.log⟩ := by
  rw [ExceptT.run_bind]
  cases hx : x.run with
  | mk value log =>
  rw [hx] at h
  cases h
  rfl

/-- What is made out of a result, after something that cannot fail. -/
theorem run_lift_bind_map {γ : Type} (x : Logged γ) (result : γ → Except ModelError α)
    (f : γ → α → β) :
    ((liftM x : Load γ) >>= fun c => liftM (result c) >>= fun a => pure (f c a)).run =
      ⟨(result x.value).map (f x.value), x.log⟩ := by
  have hlift : (liftM x : Load γ).run = ⟨.ok x.value, x.log⟩ := by
    show (⟨.ok x.value, x.log ++ []⟩ : Logged (Except ModelError γ)) = ⟨.ok x.value, x.log⟩
    rw [List.append_nil]
  have hvalue : (liftM x : Load γ).run.value = .ok x.value := by rw [hlift]
  rw [run_bind_of_ok hvalue, hlift]
  cases result x.value with
  | error e =>
    show (⟨.error e, x.log ++ []⟩ : Logged (Except ModelError β)) = ⟨.error e, x.log⟩
    rw [List.append_nil]
  | ok a =>
    show (⟨.ok (f x.value a), x.log ++ []⟩ : Logged (Except ModelError β)) =
      ⟨.ok (f x.value a), x.log⟩
    rw [List.append_nil]

end Load

namespace Build

variable {σ α β : Type}

/-- A failure ends a build: what was to follow is neither reached nor logged. -/
theorem run_bind_of_error {x : Build σ α} {state next : σ} {e : ModelError}
    (h : outcome x state = (.error e, next)) (f : α → Build σ β) :
    (x >>= f).run.run state = ⟨(.error e, next), (x.run.run state).log⟩ := by
  unfold outcome at h
  rw [ExceptT.run_bind, StateT.run_bind]
  cases hx : x.run.run state with
  | mk value log =>
  rw [hx] at h
  cases h
  show (⟨(.error e, next), log ++ []⟩ : Logged (Except ModelError β × σ)) = ⟨(.error e, next), log⟩
  rw [List.append_nil]

end Build

namespace Plan

/-- A plan accepts the solvers that it was given, in letters of either case. -/
theorem acceptsSolver_iff {plan : Plan} {solver : String} :
    plan.acceptsSolver solver = true ↔ ∃ known ∈ plan.solvers, SameButCase known solver := by
  unfold acceptsSolver
  simp only [List.any_eq_true, beq_iff_eq, sameButCase_iff]

theorem solvers_answer (plan : Plan) (request : Request) :
    (plan.answer request).2.solvers = plan.solvers := by
  unfold answer
  cases plan.check request with
  | error e => rfl
  | ok _ => rw [add_eq]

/-- Whatever a plan is asked, it accepts the same solvers. -/
theorem solvers_of_answers {transcript : List Exchange} {plan last : Plan}
    (h : Plan.engine.Answers plan transcript last) : last.solvers = plan.solvers := by
  induction transcript generalizing plan with
  | nil =>
    cases h
    rfl
  | cons exchange rest ih =>
    obtain ⟨-, hrest⟩ := h
    rw [ih hrest]
    exact plan.solvers_answer exchange.request

end Plan

namespace Model

open Build

variable {model : Model} {plan next : Plan} {report : BuildReport} {solver : String}

theorem solvers_of_build {result : Except ModelError BuildReport}
    (h : outcome (model.build Plan.engine) plan = (result, next)) :
    next.solvers = plan.solvers := by
  obtain ⟨transcript, result', last, hruns, -⟩ := model.follows_build.exists_runs Plan.engine plan
  have hlast : (result', last) = (result, next) := hruns.outcome_eq.symm.trans h
  cases hlast
  exact Plan.solvers_of_answers hruns.answers

/-- A run is the build with one more request at its end. -/
theorem outcome_run (hbuild : outcome (model.build Plan.engine) plan = (.ok report, next)) :
    outcome (model.run Plan.engine solver) plan =
      outcome (Plan.engine.demand .run solver (model.runRequest solver) >>= fun _ => pure report)
        next := by
  unfold run
  rw [outcome_bind_of_ok hbuild, outcome_note_bind]
  rfl

/-- After a build that succeeds, a known solver is run, which adds one call. -/
theorem outcome_run_of_accepted
    (hbuild : outcome (model.build Plan.engine) plan = (.ok report, next))
    (hsolver : next.acceptsSolver solver = true) :
    outcome (model.run Plan.engine solver) plan =
      (.ok report, next.add (model.runRequest solver)) := by
  have hanswer : Plan.engine.answer (model.runRequest solver) next =
      (.ok (), next.add (model.runRequest solver)) := by
    have hcheck : next.check (model.runRequest solver) = .ok () := if_pos hsolver
    show next.answer _ = _
    rw [Plan.answer, hcheck]
  rw [outcome_run hbuild, outcome_bind, outcome_demand, hanswer]
  rfl

/-- After a build that succeeds, an unknown solver is refused, and the plan stays as it is. -/
theorem outcome_run_of_refused
    (hbuild : outcome (model.build Plan.engine) plan = (.ok report, next))
    (hsolver : ¬next.acceptsSolver solver = true) :
    outcome (model.run Plan.engine solver) plan =
      (.error (.engine .run solver (.unsupportedSolver solver)), next) := by
  have hanswer : Plan.engine.answer (model.runRequest solver) next =
      (.error (.unsupportedSolver solver), next) := by
    have hcheck : next.check (model.runRequest solver) = .error (.unsupportedSolver solver) :=
      if_neg hsolver
    show next.answer _ = _
    rw [Plan.answer, hcheck]
  rw [outcome_run hbuild, outcome_bind, outcome_demand, hanswer]
  rfl

end Model

namespace CommandLine

/-- Whether some settings are those of a settings file, or else the standard ones. -/
inductive StartsFrom (host : Host) : Option String → Settings → Prop
  | standard : StartsFrom host none
      { strictness := .strict, defaultSolver := "clp", solvers := ["clp", "highs"] }
  | file {path text : String} {settings : Settings} (content : host.files path = .ok text)
      (read : Settings.read text = .ok settings) : StartsFrom host (some path) settings

/-- Whether an invocation comes to some settings: those that it starts from, which the flag makes
permissive. -/
structure Configured (host : Host) (invocation : Invocation) (settings : Settings) : Prop where
  exists_start : ∃ start, StartsFrom host invocation.config start ∧
    settings.defaultSolver = start.defaultSolver ∧ settings.solvers = start.solvers ∧
    settings.strictness = if invocation.permissive then .permissive else start.strictness

def Invocation.asking (invocation : Invocation) (command : Command) : Invocation :=
  { invocation with command }

/-- What all commands begin with: the settings, and the model as it is in its file. -/
def opened (host : Host) (invocation : Invocation) (path : String) : Load (Settings × Model) := do
  let settings ← invocation.settings host
  let model ← Model.loadFile host.files settings.strictness path
  return (settings, model)

def override (host : Host) (outputFile : Option String) (model : Model) : Load Model :=
  match outputFile with
  | some file => do
    let path ← host.locate file
    model.addOutput (overrideOutput path)
  | none => return model

/-- What is planned and what is run: the model with the output that is asked for. -/
def prepared (host : Host) (invocation : Invocation) (path : String)
    (outputFile : Option String) : Load (Settings × Model) := do
  let loaded ← opened host invocation path
  let model ← override host outputFile loaded.2
  return (loaded.1, model)

def checked (path : String) (model : Model) : Load String := do
  noteParameters model
  return checkText path model

def planned (settings : Settings) (model : Model) : Load String := do
  let (result, plan) ← buildPlan settings model
  discard result
  return planText plan

def ran (path : String) (solver : Option String) (settings : Settings) (model : Model) :
    Load String := do
  let (result, _) ← runPlan settings solver model
  return runText path (solver.getD settings.defaultSolver) model (← result)

def conclude (written : Load String) : Logged Outcome := do
  return outcome (← written.run)

variable {host : Host} {invocation : Invocation} {path : String} {outputFile : Option String}
  {solver : Option String} {settings : Settings} {model : Model} {plan : Plan} {e : ModelError}

theorem loadModel_eq (strictness : Strictness) :
    loadModel host strictness path outputFile =
      Model.loadFile host.files strictness path >>= override host outputFile := by
  cases outputFile with
  | none => rfl
  | some file => rfl

theorem execute_eq (command : Command) :
    execute host (invocation.asking command) =
      conclude (invocation.settings host >>= fun settings => perform host settings command) :=
  rfl

/-- The command `check` opens the model and looks no further. -/
theorem execute_check (path : String) :
    execute host (invocation.asking (.check path)) =
      conclude (opened host invocation path >>= fun loaded => checked path loaded.2) := by
  rw [execute_eq]
  simp only [opened, perform, checked, loadModel_eq, override, bind_assoc, pure_bind]

/-- The command `plan` prepares the model and then plans it. -/
theorem execute_plan (path : String) (outputFile : Option String) :
    execute host (invocation.asking (.plan path outputFile)) =
      conclude (prepared host invocation path outputFile >>= fun loaded =>
        planned loaded.1 loaded.2) := by
  rw [execute_eq]
  simp only [prepared, opened, perform, planned, loadModel_eq, bind_assoc, pure_bind]

/-- The command `run` prepares the model as `plan` does, and then runs it. -/
theorem execute_run (path : String) (solver outputFile : Option String) :
    execute host (invocation.asking (.run path solver outputFile)) =
      conclude (prepared host invocation path outputFile >>= fun loaded =>
        ran path solver loaded.1 loaded.2) := by
  rw [execute_eq]
  simp only [prepared, opened, perform, ran, loadModel_eq, bind_assoc, pure_bind]

theorem run_checked : (checked path model).run = ⟨.ok (checkText path model),
    (noteParameters model).log⟩ :=
  Load.run_lift_bind_map (noteParameters model) (fun _ => .ok ()) fun _ _ => checkText path model

theorem run_planned :
    (planned settings model).run =
      ⟨(buildPlan settings model).value.1.map fun _ => planText (buildPlan settings model).value.2,
        (buildPlan settings model).log⟩ := by
  rw [← Load.run_lift_bind_map (buildPlan settings model) Prod.fst fun built _ => planText built.2]
  unfold planned
  simp only [discard, map_const, Function.comp_apply, ← bind_pure_comp, Function.const_apply,
    bind_assoc, pure_bind]

theorem run_ran :
    (ran path solver settings model).run =
      ⟨(runPlan settings solver model).value.1.map
        (runText path (solver.getD settings.defaultSolver) model),
        (runPlan settings solver model).log⟩ :=
  Load.run_lift_bind_map (runPlan settings solver model) Prod.fst fun _ =>
    runText path (solver.getD settings.defaultSolver) model

/-- Where a build fails, a run fails in the same way and logs the same. -/
theorem runPlan_of_error {next : Plan}
    (h : (buildPlan settings model).value = (.error e, next)) :
    runPlan settings solver model = buildPlan settings model := by
  have hbuild : Build.outcome (model.build Plan.engine) (Plan.new settings.solvers) =
      (.error e, next) := h
  calc runPlan settings solver model
      = ⟨(.error e, next), (buildPlan settings model).log⟩ := Build.run_bind_of_error hbuild _
    _ = buildPlan settings model := by rw [← h]

theorem conclude_eq (written : Load String) :
    conclude written = ⟨outcome written.run.value, written.run.log⟩ := by
  show (⟨outcome written.run.value, written.run.log ++ []⟩ : Logged Outcome) = _
  rw [List.append_nil]

/-- A command whose first steps fail comes to this failure, whatever was to follow. -/
theorem conclude_of_error {α : Type} {x : Load α} (h : x.run.value = .error e)
    (f : α → Load String) : conclude (x >>= f) = ⟨outcome (.error e), x.run.log⟩ := by
  rw [conclude_eq, Load.run_bind_of_error h]

/-- A command whose first steps succeed comes to what follows them, and logs both. -/
theorem conclude_of_ok {α : Type} {x : Load α} {a : α} (h : x.run.value = .ok a)
    (f : α → Load String) :
    conclude (x >>= f) = ⟨outcome (f a).run.value, x.run.log ++ (f a).run.log⟩ := by
  rw [conclude_eq, Load.run_bind_of_ok h]

/-- Whether the program failed: it says why, and writes nothing else. -/
structure Failed (left : Outcome) : Prop where
  status_eq : left.status = 1
  output_eq : left.output = ""

theorem outcome_succeeded_or_failed (result : Except ModelError String) :
    (outcome result).status = 0 ∨ Failed (outcome result) := by
  cases result with
  | error e => exact Or.inr ⟨rfl, rfl⟩
  | ok text => exact Or.inl rfl

/-- Whether the settings and the model of an invocation are read, and the model is built, with the
output that is asked for, into a plan. -/
structure Planned (host : Host) (invocation : Invocation) (path : String)
    (outputFile : Option String) (settings : Settings) (model : Model) (plan : Plan) : Prop where
  configured : Configured host invocation settings
  model_eq : (loadModel host settings.strictness path outputFile).result = .ok model
  plan_eq : ∃ report, (buildPlan settings model).value = (.ok report, plan)

/-- Whether a run goes on from the plan of its model to a last plan: with a solver that the
settings name, in letters of either case, it is the plan with one more call, and otherwise the run
fails and the plan stays as it is. -/
structure RunsOn (settings : Settings) (model : Model) (plan : Plan) (solver : String) (last : Plan)
    (left : Outcome) : Prop where
  status_iff : left.status = 0 ↔ ∃ known ∈ settings.solvers, SameButCase known solver
  -- the one call that a run adds to those of the build
  accepted : left.status = 0 → last.calls = plan.calls ++ [.run solver model.timestepper.start
    model.timestepper.stop model.timestepper.timestep]
  refused : left.status ≠ 0 → last.calls = plan.calls

/-- What the commands have to do with each other, on the same files and with the same options. -/
structure Agree (host : Host) (invocation : Invocation) (path : String)
    (outputFile solver : Option String) : Prop where
  /-- A command that fails writes nothing but its failure. -/
  settles : ∀ command, (execute host (invocation.asking command)).value.status = 0 ∨
    Failed (execute host (invocation.asking command)).value
  /-- Where `plan` succeeds, it writes the calls that `run` begins with. -/
  planned : (execute host (invocation.asking (.plan path outputFile))).value.status = 0 →
    ∃ settings model plan, Planned host invocation path outputFile settings model plan ∧
      (execute host (invocation.asking (.plan path outputFile))).value.output =
        String.join (plan.calls.map fun call => call.line ++ "\n") ∧
      RunsOn settings model plan (solver.getD settings.defaultSolver)
        (runPlan settings solver model).value.2
        (execute host (invocation.asking (.run path solver outputFile))).value
  /-- Where `plan` fails, `run` fails in the same way. -/
  unplanned : Failed (execute host (invocation.asking (.plan path outputFile))).value →
    execute host (invocation.asking (.run path solver outputFile)) =
      execute host (invocation.asking (.plan path outputFile))
  checked_iff : (execute host (invocation.asking (.check path))).value.status = 0 ↔
    ∃ settings model, Configured host invocation settings ∧
      (Model.loadFile host.files settings.strictness path).result = .ok model
  /-- Where `check` fails, the other commands fail in the same way. -/
  unchecked : Failed (execute host (invocation.asking (.check path))).value →
    execute host (invocation.asking (.plan path outputFile)) =
        execute host (invocation.asking (.check path)) ∧
      execute host (invocation.asking (.run path solver outputFile)) =
        execute host (invocation.asking (.check path))

theorem not_failed_of_ok {text : String} : ¬Failed (outcome (.ok text)) := by
  rintro ⟨hstatus, -⟩
  cases hstatus

/-- Settings are read where the settings file can be read as settings, or where there is none. -/
theorem result_startSettings_eq_ok_iff {config : Option String} :
    (startSettings host config).result = .ok settings ↔ StartsFrom host config settings := by
  cases config with
  | none =>
    constructor
    · intro h
      cases h
      exact .standard
    · intro h
      cases h
      rfl
  | some path =>
    rw [startSettings, Load.result_check_bind_eq_ok_iff, Load.result_bind_eq_ok_iff]
    constructor
    · rintro ⟨-, text, hcontent, hread⟩
      exact .file (mapError_eq_ok_iff.mp hcontent) hread
    · intro h
      cases h with
      | file content read => exact ⟨rfl, _, mapError_eq_ok_iff.mpr content, read⟩

/-- The settings that are read are those that an invocation comes to. -/
theorem result_settings_eq_ok_iff :
    (invocation.settings host).result = .ok settings ↔ Configured host invocation settings := by
  rw [Invocation.settings, Load.result_bind_eq_ok_iff]
  simp only [result_startSettings_eq_ok_iff]
  constructor
  · rintro ⟨start, hstart, hsettings⟩
    refine ⟨start, hstart, ?_⟩
    -- the flag decides about the strictness, and about nothing else
    cases hsettings
    cases invocation.permissive with
    | true => exact ⟨rfl, rfl, rfl⟩
    | false => exact ⟨rfl, rfl, rfl⟩
  · rintro ⟨start, hstart, hsolver, hsolvers, hstrictness⟩
    refine ⟨start, hstart, congrArg Except.ok ?_⟩
    cases settings
    cases hsolver
    cases hsolvers
    cases hstrictness
    cases invocation.permissive with
    | true => rfl
    | false => rfl

/-- What is loaded with some settings is loaded when both are read. -/
theorem result_settings_bind_eq_ok_iff (loadWith : Settings → Load Model) :
    Load.result (invocation.settings host >>= fun settings =>
      loadWith settings >>= fun model => pure (settings, model)) = .ok (settings, model) ↔
      Configured host invocation settings ∧ (loadWith settings).result = .ok model := by
  simp only [Load.result_bind_eq_ok_iff, result_settings_eq_ok_iff]
  constructor
  · rintro ⟨settings', hsettings, model', hmodel, hpair⟩
    cases hpair
    exact ⟨hsettings, hmodel⟩
  · rintro ⟨hsettings, hmodel⟩
    exact ⟨settings, hsettings, model, hmodel, rfl⟩

/-- What every command begins with succeeds when the settings and the model load. -/
theorem result_opened_eq_ok_iff :
    (opened host invocation path).result = .ok (settings, model) ↔
      Configured host invocation settings ∧
        (Model.loadFile host.files settings.strictness path).result = .ok model :=
  result_settings_bind_eq_ok_iff fun settings =>
    Model.loadFile host.files settings.strictness path

/-- What `plan` and `run` begin with succeeds when the model loads and takes the output that is
asked for. -/
theorem result_prepared_eq_ok_iff :
    (prepared host invocation path outputFile).result = .ok (settings, model) ↔
      Configured host invocation settings ∧
        (loadModel host settings.strictness path outputFile).result = .ok model := by
  have heq : prepared host invocation path outputFile =
      invocation.settings host >>= fun settings =>
        loadModel host settings.strictness path outputFile >>= fun model =>
          pure (settings, model) := by
    simp only [prepared, opened, loadModel_eq, bind_assoc, pure_bind]
  rw [heq]
  exact result_settings_bind_eq_ok_iff fun settings =>
    loadModel host settings.strictness path outputFile

theorem execute_plan_of_ok (h : (prepared host invocation path outputFile).result =
      .ok (settings, model)) :
    execute host (invocation.asking (.plan path outputFile)) =
      ⟨outcome ((buildPlan settings model).value.1.map
          fun _ => planText (buildPlan settings model).value.2),
        (prepared host invocation path outputFile).run.log ++ (buildPlan settings model).log⟩ := by
  rw [execute_plan, conclude_of_ok h, run_planned]

theorem execute_run_of_ok (h : (prepared host invocation path outputFile).result =
      .ok (settings, model)) :
    execute host (invocation.asking (.run path solver outputFile)) =
      ⟨outcome ((runPlan settings solver model).value.1.map
          (runText path (solver.getD settings.defaultSolver) model)),
        (prepared host invocation path outputFile).run.log ++
          (runPlan settings solver model).log⟩ := by
  rw [execute_run, conclude_of_ok h, run_ran]

/-- The plan that a run ends with, after a build that succeeds. -/
theorem runsOn_of_build {report : BuildReport}
    (hbuild : (buildPlan settings model).value = (.ok report, plan)) :
    RunsOn settings model plan (solver.getD settings.defaultSolver)
      (runPlan settings solver model).value.2
      (outcome ((runPlan settings solver model).value.1.map
        (runText path (solver.getD settings.defaultSolver) model))) := by
  have hsolvers : plan.solvers = settings.solvers := Model.solvers_of_build hbuild
  -- the plan was made with the solvers of the settings, and building does not change them
  have haccepts : plan.acceptsSolver (solver.getD settings.defaultSolver) = true ↔
      ∃ known ∈ settings.solvers, SameButCase known (solver.getD settings.defaultSolver) := by
    rw [Plan.acceptsSolver_iff, hsolvers]
  by_cases hsolver : plan.acceptsSolver (solver.getD settings.defaultSolver) = true
  · have hrun : (runPlan settings solver model).value = _ :=
      Model.outcome_run_of_accepted hbuild hsolver
    rw [hrun]
    exact {
      status_iff := ⟨fun _ => haccepts.mp hsolver, fun _ => rfl⟩
      accepted := fun _ => Plan.calls_add plan _
      refused := fun hfailed => absurd rfl hfailed }
  · have hrun : (runPlan settings solver model).value = _ :=
      Model.outcome_run_of_refused hbuild hsolver
    rw [hrun]
    -- a refused solver is the only way for a run to fail on a built plan
    have hstatus : ¬(outcome (.error (.engine .run (solver.getD settings.defaultSolver)
      (.unsupportedSolver (solver.getD settings.defaultSolver))))).status = 0 := Nat.one_ne_zero
    exact {
      status_iff := iff_of_false hstatus (mt haccepts.mpr hsolver)
      accepted := fun hzero => absurd hzero hstatus
      refused := fun _ => rfl }

/-- How far `plan` gets: the model cannot be prepared, or not built, or all goes well. -/
inductive Stage (host : Host) (invocation : Invocation) (path : String)
    (outputFile : Option String) : Prop
  | unprepared (e : ModelError) (h : (prepared host invocation path outputFile).result = .error e)
  | unbuilt (settings : Settings) (model : Model) (e : ModelError) (plan : Plan)
    (h : (prepared host invocation path outputFile).result = .ok (settings, model))
    (hbuild : (buildPlan settings model).value = (.error e, plan))
  | built (settings : Settings) (model : Model) (report : BuildReport) (plan : Plan)
    (h : (prepared host invocation path outputFile).result = .ok (settings, model))
    (hbuild : (buildPlan settings model).value = (.ok report, plan))

/-- Every call of `plan` ends at one of the stages. -/
theorem stage (host : Host) (invocation : Invocation) (path : String)
    (outputFile : Option String) : Stage host invocation path outputFile := by
  cases hprepared : (prepared host invocation path outputFile).result with
  | error e => exact .unprepared e hprepared
  | ok loaded =>
    obtain ⟨settings, model⟩ := loaded
    cases hbuild : (buildPlan settings model).value with
    | mk result plan =>
    cases result with
    | error e => exact .unbuilt settings model e plan hprepared hbuild
    | ok report => exact .built settings model report plan hprepared hbuild

/-- What `check` cannot load, no other command can prepare. -/
theorem run_prepared_of_unopened (outputFile : Option String)
    (h : (opened host invocation path).result = .error e) :
    (prepared host invocation path outputFile).run =
      ⟨.error e, (opened host invocation path).run.log⟩ :=
  Load.run_bind_of_error h _

/-- The commands agree on the same files and options. `plan` and `run` prepare the model in the same
way and build it on the same new plan, so they part only at the solver; `check` does the first part
of what they do. -/
theorem commands_agree (host : Host) (invocation : Invocation) (path : String)
    (outputFile solver : Option String) : Agree host invocation path outputFile solver where
  settles := by
    intro command
    rw [execute_eq, conclude_eq]
    exact outcome_succeeded_or_failed _
  planned := by
    intro hstatus
    -- the two commands share all stages up to the build, so each stage is looked at once
    cases stage host invocation path outputFile with
    | unprepared e hprepared =>
      rw [execute_plan, conclude_of_error hprepared] at hstatus
      cases hstatus
    | unbuilt settings model e plan hprepared hbuild =>
      rw [execute_plan_of_ok hprepared, hbuild] at hstatus
      cases hstatus
    | built settings model report plan hprepared hbuild =>
      obtain ⟨hsettings, hmodel⟩ := result_prepared_eq_ok_iff.mp hprepared
      refine ⟨settings, model, plan, ⟨hsettings, hmodel, report, hbuild⟩, ?_, ?_⟩
      · rw [execute_plan_of_ok hprepared, hbuild]
        rfl
      · rw [execute_run_of_ok hprepared]
        exact runsOn_of_build hbuild
  unplanned := by
    intro hfailed
    cases stage host invocation path outputFile with
    | unprepared e hprepared =>
      -- what fails before the build fails in the same way for both commands
      rw [execute_run, execute_plan, conclude_of_error hprepared, conclude_of_error hprepared]
    | unbuilt settings model e plan hprepared hbuild =>
      rw [execute_run_of_ok hprepared, execute_plan_of_ok hprepared, runPlan_of_error hbuild,
        hbuild]
      rfl
    | built settings model report plan hprepared hbuild =>
      rw [execute_plan_of_ok hprepared, hbuild] at hfailed
      exact absurd hfailed not_failed_of_ok
  checked_iff := by
    cases hopened : (opened host invocation path).result with
    | error e =>
      rw [execute_check, conclude_of_error hopened]
      refine iff_of_false Nat.one_ne_zero ?_
      rintro ⟨settings, model, hloads⟩
      rw [result_opened_eq_ok_iff.mpr hloads] at hopened
      cases hopened
    | ok loaded =>
      obtain ⟨settings, model⟩ := loaded
      rw [execute_check, conclude_of_ok hopened, run_checked]
      exact iff_of_true rfl ⟨settings, model, result_opened_eq_ok_iff.mp hopened⟩
  unchecked := by
    intro hfailed
    cases hopened : (opened host invocation path).result with
    | error e =>
      -- nothing follows a model that is not opened, whatever the command would do with it
      have hprepared := run_prepared_of_unopened outputFile hopened
      have hvalue : (prepared host invocation path outputFile).run.value = .error e := by
        rw [hprepared]
      rw [execute_check, execute_plan, execute_run, conclude_of_error hopened,
        conclude_of_error hvalue, conclude_of_error hvalue, hprepared]
      exact ⟨rfl, rfl⟩
    | ok loaded =>
      rw [execute_check, conclude_of_ok hopened, run_checked] at hfailed
      exact absurd hfailed not_failed_of_ok

/-- A brook, next to settings that name a solver. The model has a key that nothing reads. -/
def brook : Host where
  files := fun path =>
    if path = "flow.toml" then .ok "default_solver = \"highs\"\n"
    else if path = "brook.json" then .ok (
      "\x7b\"timestepper\": \x7b\"start\": \"2020-01-01\", \"end\": \"2020-01-31\", " ++
      "\"timestep\": 1\x7d, \"nodes\": [\x7b\"type\": \"Input\", \"name\": \"spring\", " ++
      "\"colour\": \"blue\"\x7d]\x7d")
    else .error .notFound
  directory := "/work"

def brookCall (permissive : Bool) : Invocation :=
  { config := some "flow.toml", permissive, verbosity := 0, command := .check "brook.json" }

theorem execute_plan_brook :
    (execute brook ((brookCall true).asking (.plan "brook.json" none))).value =
      { status := 0, output := "add_node spring (input)\n", errors := "" } := by
  decide +kernel

theorem execute_check_brook :
    (execute brook ((brookCall false).asking (.check "brook.json"))).value =
      { status := 1, output := "",
        errors := "Error: Invalid nodes entry \"spring\": unknown field(s): colour\n" } := by
  decide +kernel

/-- The brook is planned and run with the flag, and refused without it. -/
theorem commands_agree_brook :
    (∃ settings model plan, Planned brook (brookCall true) "brook.json" none settings model plan ∧
      settings.strictness = .permissive ∧ settings.defaultSolver = "highs" ∧
      String.join (plan.calls.map fun call => call.line ++ "\n") = "add_node spring (input)\n" ∧
      (execute brook ((brookCall true).asking
        (.run "brook.json" (some "HiGHS") none))).value.status = 0 ∧
      (runPlan settings (some "HiGHS") model).value.2.calls =
        plan.calls ++ [.run "HiGHS" model.timestepper.start model.timestepper.stop
          model.timestepper.timestep]) ∧
    (execute brook ((brookCall false).asking (.check "brook.json"))).value.errors =
      "Error: Invalid nodes entry \"spring\": unknown field(s): colour\n" ∧
    execute brook ((brookCall false).asking (.run "brook.json" none none)) =
      execute brook ((brookCall false).asking (.check "brook.json")) := by
  have hfailed : Failed (execute brook ((brookCall false).asking (.check "brook.json"))).value := by
    rw [execute_check_brook]
    exact ⟨rfl, rfl⟩
  have hcontent : brook.files "flow.toml" = .ok "default_solver = \"highs\"\n" := by
    simp only [brook, if_true]
  have hread : (match Settings.read "default_solver = \"highs\"\n" with
      | .ok start => (start.defaultSolver, start.solvers)
      | .error _ => ("", [])) = ("highs", ["clp", "highs"]) := by decide +kernel
  have hplanned : (execute brook ((brookCall true).asking (.plan "brook.json" none))).value.status =
      0 := by rw [execute_plan_brook]
  refine ⟨?_, by rw [execute_check_brook], ?_⟩
  · obtain ⟨settings, model, plan, planned, houtput, hruns⟩ :=
      (commands_agree brook (brookCall true) "brook.json" none (some "HiGHS")).planned hplanned
    obtain ⟨start, hstart, hdefault, hsolvers, hstrictness⟩ := planned.configured.exists_start
    cases hstart with
    | file content read =>
    rw [hcontent] at content
    cases content
    rw [read] at hread
    obtain ⟨hhighs, hknown⟩ := Prod.mk.inj hread
    rw [execute_plan_brook] at houtput
    -- the solver that is asked for is known, but in other letters
    have hsolver : ∃ known ∈ settings.solvers, SameButCase known "HiGHS" := by
      rw [hsolvers, hknown]
      exact ⟨"highs", by decide, by simp [SameButCase, IsCapitalOf]⟩
    have hrun := hruns.status_iff.mpr hsolver
    exact ⟨settings, model, plan, planned, hstrictness, hdefault.trans hhighs, houtput.symm, hrun,
      hruns.accepted hrun⟩
  · exact ((commands_agree brook (brookCall false) "brook.json" none none).unchecked hfailed).2

end CommandLine

end FlowPlan
