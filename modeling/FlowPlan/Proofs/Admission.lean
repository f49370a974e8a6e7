import FlowPlan.Engine.Plan

namespace FlowPlan

theorem filterMap_cons_toList {α β : Type} (f : α → Option β) (a : α) (rest : List α) :
    (a :: rest).filterMap f = (f a).toList ++ rest.filterMap f := by
  rw [List.filterMap_cons]
  cases f a with
  | none => rfl
  | some b => rfl

namespace Request

def node? : Request → Option (String × NodeKind)
  | addNode name kind _ => some (name, kind)
  | addAggregatedNode name _ _ => some (name, .aggregated)
  | _ => none

def parameter? : Request → Option (String × String)
  | createParameter name kind _ => some (name, kind)
  | _ => none

def recorder? : Request → Option (String × String)
  | createRecorder name kind _ => some (name, kind)
  | _ => none

def output? : Request → Option (String × String)
  | createOutput name kind _ => some (name, kind)
  | _ => none

def declared : Request → String
  | addNode name _ _ => name
  | addAggregatedNode name _ _ => name
  | createParameter name _ _ => name
  | createRecorder name _ _ => name
  | createOutput name _ _ => name
  | _ => ""

def Silent (request : Request) : Prop :=
  request.node? = none ∧ request.parameter? = none ∧ request.recorder? = none ∧
    request.output? = none

end Request

namespace Plan

def addAll (plan : Plan) (requests : List Request) : Plan :=
  requests.foldl add plan

@[simp] theorem addAll_nil (plan : Plan) : plan.addAll [] = plan := rfl

@[simp] theorem addAll_cons (plan : Plan) (request : Request) (rest : List Request) :
    plan.addAll (request :: rest) = (plan.add request).addAll rest := rfl

/-- Requests can be taken in one batch after another. -/
theorem addAll_append (plan : Plan) (xs ys : List Request) :
    plan.addAll (xs ++ ys) = (plan.addAll xs).addAll ys :=
  List.foldl_append

/-- What one request adds: to each list of the plan what the request declares there, and one call.
-/
theorem add_eq (plan : Plan) (request : Request) :
    plan.add request =
      { nodes := plan.nodes ++ request.node?.toList
        parameters := plan.parameters ++ request.parameter?.toList
        recorders := plan.recorders ++ request.recorder?.toList
        outputs := plan.outputs ++ request.output?.toList
        solvers := plan.solvers
        calls := plan.calls ++ [Call.ofRequest request] } := by
  cases request <;> simp [add, Request.node?, Request.parameter?, Request.recorder?,
    Request.output?]

/-- What a plan holds after some requests is what they declare, in their order. -/
theorem addAll_eq (plan : Plan) (requests : List Request) :
    plan.addAll requests =
      { nodes := plan.nodes ++ requests.filterMap Request.node?
        parameters := plan.parameters ++ requests.filterMap Request.parameter?
        recorders := plan.recorders ++ requests.filterMap Request.recorder?
        outputs := plan.outputs ++ requests.filterMap Request.output?
        solvers := plan.solvers
        calls := plan.calls ++ requests.map Call.ofRequest } := by
  induction requests generalizing plan with
  | nil => simp
  | cons request rest ih =>
    rw [addAll_cons, ih, add_eq]
    simp only [filterMap_cons_toList, List.map_cons, List.append_assoc, List.singleton_append]

theorem nodes_addAll (plan : Plan) (requests : List Request) :
    (plan.addAll requests).nodes = plan.nodes ++ requests.filterMap Request.node? := by
  rw [addAll_eq]

theorem parameters_addAll (plan : Plan) (requests : List Request) :
    (plan.addAll requests).parameters =
      plan.parameters ++ requests.filterMap Request.parameter? := by
  rw [addAll_eq]

theorem recorders_addAll (plan : Plan) (requests : List Request) :
    (plan.addAll requests).recorders = plan.recorders ++ requests.filterMap Request.recorder? := by
  rw [addAll_eq]

theorem outputs_addAll (plan : Plan) (requests : List Request) :
    (plan.addAll requests).outputs = plan.outputs ++ requests.filterMap Request.output? := by
  rw [addAll_eq]

/-- Requests that are granted are written down one call each, in their order. -/
theorem calls_addAll (plan : Plan) (requests : List Request) :
    (plan.addAll requests).calls = plan.calls ++ requests.map Call.ofRequest := by
  rw [addAll_eq]

/-- Whether a plan grants all of some requests, put to it in this order. -/
def Admits (plan : Plan) : List Request → Prop
  | [] => True
  | request :: rest => plan.check request = .ok () ∧ (plan.add request).Admits rest

/-- A plan admits a batch in two parts, the second one after the first. -/
theorem admits_append (plan : Plan) (xs ys : List Request) :
    plan.Admits (xs ++ ys) ↔ plan.Admits xs ∧ (plan.addAll xs).Admits ys := by
  induction xs generalizing plan with
  | nil => simp [Admits]
  | cons request rest ih =>
    rw [List.cons_append, Admits, Admits, ih, addAll_cons, and_assoc]

/-- Requests under names that must not be taken, and which do not bear on each other otherwise, are
granted together when their names are distinct and new, and each of them is right by itself. -/
theorem admits_map_iff {α : Type} {plan : Plan} {items : List α} {request : α → Request}
    {name : α → String} {taken : List String} {right : α → Prop}
    (hcheck : ∀ before, before ⊆ items → ∀ a ∈ items,
      ((plan.addAll (before.map request)).check (request a) = .ok () ↔
        name a ∉ taken ++ before.map name ∧ right a)) :
    plan.Admits (items.map request) ↔
      (items.map name).Nodup ∧ ∀ a ∈ items, name a ∉ taken ∧ right a := by
  induction items generalizing plan taken with
  | nil => simp [Admits]
  | cons first rest ih =>
    have hfirst := hcheck [] (List.nil_subset _) first List.mem_cons_self
    rw [List.map_nil, List.map_nil, addAll_nil, List.append_nil] at hfirst
    -- for the rest, the first name is one more that is taken
    have hlater : ∀ before, before ⊆ rest → ∀ a ∈ rest,
        (((plan.add (request first)).addAll (before.map request)).check (request a) = .ok () ↔
          name a ∉ (taken ++ [name first]) ++ before.map name ∧ right a) := by
      intro before hbefore a ha
      have hcons := hcheck (first :: before) (List.cons_subset_cons first hbefore) a
        (List.mem_cons_of_mem _ ha)
      rwa [List.map_cons, List.map_cons, addAll_cons, List.append_cons] at hcons
    rw [List.map_cons, Admits, hfirst, ih hlater, List.map_cons, List.nodup_cons,
      List.forall_mem_cons]
    simp only [List.mem_append, List.mem_singleton, not_or]
    constructor
    · rintro ⟨hnew, hnodup, hrest⟩
      refine ⟨⟨fun hmem => ?_, hnodup⟩, hnew, fun a ha => ?_⟩
      · obtain ⟨a, ha, hsame⟩ := List.mem_map.mp hmem
        exact (hrest a ha).1.2 hsame
      · exact ⟨(hrest a ha).1.1, (hrest a ha).2⟩
    · rintro ⟨⟨hother, hnodup⟩, hnew, hrest⟩
      refine ⟨hnew, hnodup, fun a ha => ?_⟩
      refine ⟨⟨(hrest a ha).1, fun hsame => ?_⟩, (hrest a ha).2⟩
      exact hother (hsame ▸ List.mem_map_of_mem ha)

/-- Whether a request that declares nothing is granted depends on the nodes, the parameters and the
solvers of a plan only. -/
theorem check_eq_of_silent {first second : Plan} {request : Request} (hsilent : request.Silent)
    (hnodes : first.nodes = second.nodes) (hparameters : first.parameters = second.parameters)
    (hsolvers : first.solvers = second.solvers) : first.check request = second.check request := by
  obtain ⟨hnode, hparameter, hrecorder, houtput⟩ := hsilent
  cases first
  cases second
  cases hnodes
  cases hparameters
  cases hsolvers
  -- the other checks only look at what both plans have in common
  cases request with
  | addNode => cases hnode
  | addAggregatedNode => cases hnode
  | createParameter => cases hparameter
  | createRecorder => cases hrecorder
  | createOutput => cases houtput
  | _ => rfl

theorem check_add_of_silent {request other : Request} (plan : Plan) (hr : request.Silent)
    (ho : other.Silent) : (plan.add request).check other = plan.check other := by
  obtain ⟨hnode, hparameter, -, -⟩ := hr
  rw [add_eq, hnode, hparameter]
  exact check_eq_of_silent ho (List.append_nil _) (List.append_nil _) rfl

/-- Costs, bounds and runs declare nothing, so what they leave behind changes no verdict on each
other. -/
theorem check_addAll_of_silent {requests : List Request} {other : Request} (plan : Plan)
    (hsilent : ∀ request ∈ requests, request.Silent) (ho : other.Silent) :
    (plan.addAll requests).check other = plan.check other := by
  induction requests generalizing plan with
  | nil => rfl
  | cons first rest ih =>
    obtain ⟨hfirst, hrest⟩ := List.forall_mem_cons.mp hsilent
    rw [addAll_cons, ih _ hrest, check_add_of_silent plan hfirst ho]

/-- Requests that declare nothing are granted together when each of them is. -/
theorem admits_iff_of_silent {plan : Plan} {requests : List Request}
    (hsilent : ∀ request ∈ requests, request.Silent) :
    plan.Admits requests ↔ ∀ request ∈ requests, plan.check request = .ok () := by
  induction requests generalizing plan with
  | nil => simp [Admits]
  | cons first rest ih =>
    have hfirst : first.Silent := hsilent first List.mem_cons_self
    have hrest : ∀ request ∈ rest, request.Silent :=
      fun request hr => hsilent request (List.mem_cons_of_mem _ hr)
    -- a silent request before them does not change how the rest is checked
    have hsame : (∀ request ∈ rest, (plan.add first).check request = .ok ()) ↔
        ∀ request ∈ rest, plan.check request = .ok () := by
      constructor
      · intro h request hr
        rw [← check_add_of_silent plan hfirst (hrest request hr)]
        exact h request hr
      · intro h request hr
        rw [check_add_of_silent plan hfirst (hrest request hr)]
        exact h request hr
    rw [Admits, ih hrest, hsame, List.forall_mem_cons]

end Plan

end FlowPlan
