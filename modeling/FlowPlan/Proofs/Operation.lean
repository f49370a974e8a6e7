import FlowPlan.Proofs.Ledger

/-! Requests carried out step by step. An operation looks at the plan and changes it as it goes, and
nothing undoes what it has done when it fails; still it is carried out as a whole or not at all. -/

namespace FlowPlan

theorem filterMap_concat {α β : Type} (f : α → Option β) (before : List α) (last : α) :
    (before ++ [last]).filterMap f = before.filterMap f ++ (f last).toList := by
  rw [List.filterMap_append, filterMap_cons_toList, List.filterMap_nil, List.append_nil]

namespace Plan

/-- A part of an operation on a plan. What it has changed when it fails stays changed. -/
abbrev Operation :=
  ExceptT EngineError (StateM Plan)

/-- A table with a value under a name. A value that the table has under the name is replaced where
it stands, and a new name comes last. -/
def insert {α : Type} (table : List (String × α)) (name : String) (value : α) :
    List (String × α) :=
  if name ∈ table.map Prod.fst then
    table.map fun entry => if entry.1 = name then (name, value) else entry
  else
    table ++ [(name, value)]

theorem insert_of_new {α : Type} {table : List (String × α)} {name : String} {value : α}
    (h : name ∉ table.map Prod.fst) : insert table name value = table ++ [(name, value)] :=
  if_neg h

namespace Operation

variable {α β : Type}

def outcome (part : Operation α) (plan : Plan) : Except EngineError α × Plan :=
  Id.run (part.run.run plan)

def inspect (look : Plan → Except EngineError α) : Operation α := do
  liftM (look (← get))

def refuseIf (c : Prop) [Decidable c] (e : EngineError) : Operation Unit :=
  if c then throw e else pure ()

def requireSingle (name : String) (refusal : EngineError) : Operation Unit := do
  let kind ← inspect fun plan => plan.requireNode name
  refuseIf (kind = .aggregated) refusal

def requireReads (spec : ComponentSpec) (refusal : String → EngineError) : Operation Unit :=
  inspect fun plan =>
    match plan.missingParameter? spec with
    | some missing => .error (refusal missing)
    | none => .ok ()

def record (call : Call) : Operation Unit :=
  modify fun plan => { plan with calls := plan.calls ++ [call] }

/-- Carries a request out, one step after the other. -/
def perform : Request → Operation Unit
  | .addNode name kind initialVolume => do
    refuseIf (kind = .aggregated)
      (.other ("aggregated node \"" ++ name ++ "\" must be created from its member nodes"))
    inspect fun plan => plan.requireNewNode name
    -- from here on nothing is refused
    modify fun plan => { plan with nodes := insert plan.nodes name kind }
    record (.addNode name kind initialVolume)
  | .addAggregatedNode name members factors => do
    inspect fun plan => plan.requireNewNode name
    members.forM fun member =>
      requireSingle member (.other ("aggregated node \"" ++ name ++
        "\" cannot contain aggregated node \"" ++ member ++ "\""))
    liftM (requireFactors name members factors)
    modify fun plan => { plan with nodes := insert plan.nodes name .aggregated }
    record (.addAggregatedNode name members factors)
  | .connect source target => do
    [source, target].forM fun node =>
      requireSingle node (.other ("aggregated node \"" ++ node ++ "\" cannot be connected"))
    record (.connect source target)
  | .setCost node value => do
    requireSingle node (.other ("cost cannot be set on aggregated node \"" ++ node ++ "\""))
    inspect fun plan => plan.requireQuantity value
    record (.setCost node value)
  | .setBound node bound value => do
    let kind ← inspect fun plan => plan.requireNode node
    refuseIf (bound.isVolume ≠ (kind == .storage))
      (.other (bound.label ++ " cannot be set on " ++ kind.phrase ++ " node \"" ++ node ++ "\""))
    inspect fun plan => plan.requireQuantity value
    record (.setBound node bound value)
  | .createParameter name kind spec => do
    inspect fun plan => requireNew plan.parameters "parameter" name
    requireReads spec fun missing => .dependencyNotFound name missing
    spec.nodeReferences.forM fun node => inspect fun plan => discard (plan.requireNode node)
    modify fun plan => { plan with parameters := insert plan.parameters name kind }
    record (.createParameter name kind)
  | .createRecorder name kind spec => do
    inspect fun plan => requireNew plan.recorders "recorder" name
    spec.nodeReferences.forM fun node => do
      let nodeKind ← inspect fun plan => plan.requireNode node
      refuseIf (kind = "StorageVolume" ∧ nodeKind ≠ .storage)
        (.other ("recorder \"" ++ name ++ "\" needs a storage node but \"" ++ node ++
          "\" is a " ++ nodeKind.phrase ++ " node"))
    requireReads spec .unknownParameter
    modify fun plan => { plan with recorders := insert plan.recorders name kind }
    record (.createRecorder name kind)
  | .createOutput name kind spec => do
    inspect fun plan => requireNew plan.outputs "output" name
    modify fun plan => { plan with outputs := insert plan.outputs name kind }
    record (.createOutput name kind spec.files)
  | .run solver start stop timestep => do
    inspect fun plan =>
      if plan.acceptsSolver solver then .ok () else .error (.unsupportedSolver solver)
    record (.run solver start stop timestep)

/-- An operation goes on with the plan that its first part leaves, and stops where this part fails.
-/
theorem outcome_bind (part : Operation α) (next : α → Operation β) (plan : Plan) :
    outcome (part >>= next) plan =
      match outcome part plan with
      | (.ok a, later) => outcome (next a) later
      | (.error e, later) => (.error e, later) := by
  unfold outcome
  rw [ExceptT.run_bind, StateT.run_bind]
  simp only [Id.run]
  rcases part.run.run plan with ⟨_ | a, later⟩
  · rfl
  · rfl

/-- A refusal under a condition, before what follows. -/
theorem refusal_bind {c : Prop} [Decidable c] {e : EngineError} {x : Except EngineError β} :
    ((if c then .error e else .ok () : Except EngineError Unit) >>= fun _ => x) =
      if c then .error e >>= fun _ : Unit => x else x := by
  by_cases hc : c
  · rw [if_pos hc, if_pos hc]
  · rw [if_neg hc, if_neg hc]
    rfl

theorem bind_done (x : Except EngineError Unit) : (x >>= fun _ => .ok ()) = x := by
  cases x with
  | error e => rfl
  | ok _ => rfl

/-- Whether a part of an operation changes nothing, and comes to what is seen in the plan. -/
def Looks (part : Operation α) (look : Plan → Except EngineError α) : Prop :=
  ∀ plan, outcome part plan = (look plan, plan)

namespace Looks

theorem inspect (look : Plan → Except EngineError α) : Looks (Operation.inspect look) look :=
  fun _ => rfl

theorem lift (result : Except EngineError α) : Looks (liftM result) fun _ => result :=
  fun _ => rfl

theorem refuseIf (c : Prop) [Decidable c] (e : EngineError) :
    Looks (Operation.refuseIf c e) fun _ => if c then .error e else .ok () := by
  intro plan
  unfold Operation.refuseIf
  by_cases hc : c
  · rw [if_pos hc, if_pos hc]
    rfl
  · rw [if_neg hc, if_neg hc]
    rfl

/-- Parts that only look at a plan make up an operation that only looks at it. -/
theorem bind {part : Operation α} {next : α → Operation β} {look : Plan → Except EngineError α}
    {later : α → Plan → Except EngineError β} (hpart : Looks part look)
    (hnext : ∀ a, Looks (next a) (later a)) :
    Looks (part >>= next) fun plan => look plan >>= fun a => later a plan := by
  intro plan
  dsimp only
  rw [outcome_bind, hpart plan]
  cases look plan with
  | error e => rfl
  | ok a => exact hnext a plan

theorem forM {items : List α} {part : α → Operation Unit}
    {look : α → Plan → Except EngineError Unit} (h : ∀ a, Looks (part a) (look a)) :
    Looks (items.forM part) fun plan => items.forM fun a => look a plan := by
  induction items with
  | nil => exact fun _ => rfl
  | cons a rest ih => exact (h a).bind fun _ => ih

theorem requireSingle (name : String) (refusal : EngineError) :
    Looks (Operation.requireSingle name refusal) fun plan =>
      plan.requireNode name >>= fun kind =>
        if kind = .aggregated then .error refusal else .ok () :=
  (Looks.inspect _).bind fun _ => Looks.refuseIf _ _

end Looks

/-- Whether an operation is carried out as a whole or not at all: where nothing is seen that is in
the way, the plan is changed, and otherwise it stays as it is. -/
def Atomic (operation : Operation Unit) (look : Plan → Except EngineError Unit)
    (change : Plan → Plan) : Prop :=
  ∀ plan, outcome operation plan =
    match look plan with
    | .ok () => (.ok (), change plan)
    | .error e => (.error e, plan)

namespace Atomic

theorem commit {operation : Operation Unit} {change : Plan → Plan}
    (h : ∀ plan, outcome operation plan = (.ok (), change plan)) :
    Atomic operation (fun _ => .ok ()) change :=
  h

/-- An operation stays atomic when it first looks at the plan. -/
theorem after {part : Operation α} {next : α → Operation Unit} {look : Plan → Except EngineError α}
    {later : α → Plan → Except EngineError Unit} {change : Plan → Plan} (hpart : Looks part look)
    (hnext : ∀ a, Atomic (next a) (later a) change) :
    Atomic (part >>= next) (fun plan => look plan >>= fun a => later a plan) change := by
  intro plan
  dsimp only
  rw [outcome_bind, hpart plan]
  cases look plan with
  | error e => rfl
  | ok a => exact hnext a plan

/-- What is seen may be put in other words, and so may the change where nothing is in the way. -/
theorem congr {operation : Operation Unit} {look look' : Plan → Except EngineError Unit}
    {change change' : Plan → Plan} (h : Atomic operation look change)
    (hlook : ∀ plan, look plan = look' plan)
    (hchange : ∀ plan, look' plan = .ok () → change plan = change' plan) :
    Atomic operation look' change' := by
  intro plan
  rw [h plan, hlook plan]
  cases hseen : look' plan with
  | error e => rfl
  | ok _ => rw [hchange plan hseen]

end Atomic

variable {plan : Plan}

theorem requireMembers_eq_forM (name : String) (members : List String) :
    plan.requireMembers name members = members.forM fun member =>
      plan.requireNode member >>= fun kind =>
        if kind = .aggregated then
          .error (.other ("aggregated node \"" ++ name ++ "\" cannot contain aggregated node \"" ++
            member ++ "\""))
        else .ok () := by
  induction members with
  | nil => rfl
  | cons member rest ih =>
    rw [requireMembers, List.forM, bind_assoc, ih]
    refine bind_congr fun kind => ?_
    rw [refusal_bind]

theorem requireRecorded_eq_forM (name type : String) (nodes : List String) :
    plan.requireRecorded name type nodes = nodes.forM fun node =>
      plan.requireNode node >>= fun kind =>
        if type = "StorageVolume" ∧ kind ≠ .storage then
          .error (.other ("recorder \"" ++ name ++ "\" needs a storage node but \"" ++ node ++
            "\" is a " ++ kind.phrase ++ " node"))
        else .ok () := by
  induction nodes with
  | nil => rfl
  | cons node rest ih =>
    rw [requireRecorded, List.forM, bind_assoc, ih]
    refine bind_congr fun kind => ?_
    rw [refusal_bind]

theorem requireConnectable_eq (name : String) :
    plan.requireConnectable name = plan.requireNode name >>= fun kind =>
      if kind = .aggregated then
        .error (.other ("aggregated node \"" ++ name ++ "\" cannot be connected"))
      else .ok () :=
  rfl

/-- Each operation is atomic: it refuses what the plan refuses, and adds what the plan adds. -/
theorem atomic_perform (request : Request) :
    Atomic (perform request) (fun plan => plan.check request) (fun plan => plan.add request) := by
  -- each operation is read step by step; a name that is inserted is new, since it was looked for
  cases request with
  | addNode name kind volume =>
    refine Atomic.congr (.after (.refuseIf _ _) fun _ => .after (.inspect _) fun _ =>
      .commit fun _ => rfl) (fun plan => ?_) fun plan hcheck => ?_
    · rw [bind_done, refusal_bind]
      rfl
    · have hnew : name ∉ plan.names .node := new_of_check hcheck rfl
      dsimp only
      rw [insert_of_new hnew]
      rfl
  | addAggregatedNode name members factors =>
    refine Atomic.congr (.after (.inspect _) fun _ =>
      .after (.forM fun _ => .requireSingle _ _) fun _ => .after (.lift _) fun _ =>
      .commit fun _ => rfl) (fun plan => ?_) fun plan hcheck => ?_
    · simp only [bind_done]
      rw [← requireMembers_eq_forM]
      rfl
    · have hnew : name ∉ plan.names .node := new_of_check hcheck rfl
      dsimp only
      rw [insert_of_new hnew]
      rfl
  | connect source target =>
    refine Atomic.congr (.after (.forM fun _ => .requireSingle _ _) fun _ =>
      .commit fun _ => rfl) (fun plan => ?_) fun _ _ => rfl
    rw [bind_done]
    simp only [List.forM, ← requireConnectable_eq]
    exact bind_congr fun _ => bind_done _
  | setCost node value =>
    refine Atomic.congr (.after (.requireSingle _ _) fun _ => .after (.inspect _) fun _ =>
      .commit fun _ => rfl) (fun plan => ?_) fun _ _ => rfl
    simp only [bind_done]
    rw [bind_assoc]
    refine bind_congr fun kind => ?_
    rw [refusal_bind]
  | setBound node bound value =>
    refine Atomic.congr (.after (.inspect _) fun _ => .after (.refuseIf _ _) fun _ =>
      .after (.inspect _) fun _ => .commit fun _ => rfl) (fun plan => ?_) fun _ _ => rfl
    refine bind_congr fun kind => ?_
    rw [bind_done, refusal_bind]
  | createParameter name type spec =>
    refine Atomic.congr (.after (.inspect _) fun _ => .after (.inspect _) fun _ =>
      .after (.forM fun _ => .inspect _) fun _ => .commit fun _ => rfl)
      (fun plan => ?_) fun plan hcheck => ?_
    · refine bind_congr fun _ => ?_
      dsimp only
      rw [bind_done]
      cases plan.missingParameter? spec with
      | none => rfl
      | some missing => rfl
    · have hnew : name ∉ plan.names .parameter := new_of_check hcheck rfl
      dsimp only
      rw [insert_of_new hnew]
      rfl
  | createRecorder name type spec =>
    refine Atomic.congr (.after (.inspect _) fun _ =>
      .after (.forM fun _ => .bind (.inspect _) fun _ => .refuseIf _ _) fun _ =>
      .after (.inspect _) fun _ => .commit fun _ => rfl) (fun plan => ?_) fun plan hcheck => ?_
    · simp only [bind_done]
      rw [← requireRecorded_eq_forM]
      rfl
    · have hnew : name ∉ plan.names .recorder := new_of_check hcheck rfl
      dsimp only
      rw [insert_of_new hnew]
      rfl
  | createOutput name type spec =>
    refine Atomic.congr (.after (.inspect _) fun _ => .commit fun _ => rfl)
      (fun plan => ?_) fun plan hcheck => ?_
    · rw [bind_done]
      rfl
    · have hnew : name ∉ plan.names .output := new_of_check hcheck rfl
      dsimp only
      rw [insert_of_new hnew]
      rfl
  | run solver start stop timestep =>
    refine Atomic.congr (.after (.inspect _) fun _ => .commit fun _ => rfl)
      (fun plan => ?_) fun _ _ => rfl
    rw [bind_done]
    rfl

/-- Carried out step by step, a request comes to what the plan answers, and leaves what the plan
becomes. -/
theorem outcome_perform (request : Request) (plan : Plan) :
    outcome (perform request) plan = plan.answer request :=
  atomic_perform request plan

end Operation

end Plan

namespace Call

def newParameter? : Call → Option (String × String)
  | createParameter name kind => some (name, kind)
  | _ => none

def newRecorder? : Call → Option (String × String)
  | createRecorder name kind => some (name, kind)
  | _ => none

def newOutput? : Call → Option (String × String)
  | createOutput name kind _ => some (name, kind)
  | _ => none

theorem newParameter?_ofRequest (request : Request) :
    (ofRequest request).newParameter? = request.parameter? := by
  cases request with
  | _ => rfl

theorem newRecorder?_ofRequest (request : Request) :
    (ofRequest request).newRecorder? = request.recorder? := by
  cases request with
  | _ => rfl

theorem newOutput?_ofRequest (request : Request) :
    (ofRequest request).newOutput? = request.output? := by
  cases request with
  | _ => rfl

end Call

namespace Plan

/-- Whether the tables of a plan are, in order, what its calls created. -/
structure Mirrored (plan : Plan) : Prop where
  nodes_eq : plan.nodes = plan.calls.filterMap Call.node?
  parameters_eq : plan.parameters = plan.calls.filterMap Call.newParameter?
  recorders_eq : plan.recorders = plan.calls.filterMap Call.newRecorder?
  outputs_eq : plan.outputs = plan.calls.filterMap Call.newOutput?

/-- Whether a plan becomes another one by a single call at the end of its log: each table has what
the call creates there, if anything, and is as it was otherwise. -/
structure Extends (plan : Plan) (call : Call) (later : Plan) : Prop where
  calls_eq : later.calls = plan.calls ++ [call]
  solvers_eq : later.solvers = plan.solvers
  nodes_eq : later.nodes = plan.nodes ++ call.node?.toList
  parameters_eq : later.parameters = plan.parameters ++ call.newParameter?.toList
  recorders_eq : later.recorders = plan.recorders ++ call.newRecorder?.toList
  outputs_eq : later.outputs = plan.outputs ++ call.newOutput?.toList

inductive Settled (plan : Plan) (request : Request) : Answer × Plan → Prop
  | refused (e : EngineError) : Settled plan request (.error e, plan)
  | granted (later : Plan) (h : plan.Extends (Call.ofRequest request) later) :
    Settled plan request (.ok (), later)

/-- What is added to a plan is one call, and in one table at most the entry that the call creates.
-/
theorem extends_add (plan : Plan) (request : Request) :
    plan.Extends (Call.ofRequest request) (plan.add request) where
  calls_eq := calls_add plan request
  solvers_eq := by rw [add_eq]
  nodes_eq := by rw [add_eq, Call.node?_ofRequest]
  parameters_eq := by rw [add_eq, Call.newParameter?_ofRequest]
  recorders_eq := by rw [add_eq, Call.newRecorder?_ofRequest]
  outputs_eq := by rw [add_eq, Call.newOutput?_ofRequest]

/-- A request to a plan ends in one of two ways: it is refused and changes nothing, or it adds its
call and its entry. -/
theorem settled_answer (plan : Plan) (request : Request) :
    plan.Settled request (plan.answer request) := by
  unfold answer
  cases plan.check request with
  | error e => exact .refused e
  | ok _ => exact .granted _ (plan.extends_add request)

namespace Mirrored

variable {plan : Plan}

theorem new (solvers : List String) : (Plan.new solvers).Mirrored where
  nodes_eq := rfl
  parameters_eq := rfl
  recorders_eq := rfl
  outputs_eq := rfl

/-- A plan stays a mirror of its log through a single call. -/
theorem step {call : Call} {later : Plan} (h : plan.Mirrored) (hstep : plan.Extends call later) :
    later.Mirrored where
  nodes_eq := by
    rw [hstep.nodes_eq, hstep.calls_eq, filterMap_concat, h.nodes_eq]
  parameters_eq := by
    rw [hstep.parameters_eq, hstep.calls_eq, filterMap_concat, h.parameters_eq]
  recorders_eq := by
    rw [hstep.recorders_eq, hstep.calls_eq, filterMap_concat, h.recorders_eq]
  outputs_eq := by
    rw [hstep.outputs_eq, hstep.calls_eq, filterMap_concat, h.outputs_eq]

/-- Whatever a plan is asked, its tables mirror its calls. -/
theorem askAll (h : plan.Mirrored) (requests : List Request) :
    (plan.askAll requests).Mirrored := by
  apply askAll_induction _ h
  intro earlier request hearlier _
  exact hearlier.step (earlier.extends_add request)

end Mirrored

/-- Whatever a new plan has been asked, its tables are what its calls created; and the next request
is carried out as a whole or not at all, although it is carried out step by step. -/
theorem mirrored_and_atomic (solvers : List String) (requests : List Request) (request : Request) :
    ((Plan.new solvers).askAll requests).Mirrored ∧
      Operation.outcome (Operation.perform request) ((Plan.new solvers).askAll requests) =
        ((Plan.new solvers).askAll requests).answer request ∧
      ((Plan.new solvers).askAll requests).Settled request
        (((Plan.new solvers).askAll requests).answer request) := by
  have hmirrored := (Mirrored.new solvers).askAll requests
  have hsteps := Operation.outcome_perform request ((Plan.new solvers).askAll requests)
  exact ⟨hmirrored, hsteps, settled_answer _ request⟩

end Plan

end FlowPlan
