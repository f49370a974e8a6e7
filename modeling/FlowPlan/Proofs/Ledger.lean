import FlowPlan.Proofs.Admission
import FlowPlan.Proofs.Check
import Mathlib.Data.List.Nodup

namespace FlowPlan

/-- What names are given to. Within each of these, a name is given once. -/
inductive Space where
  | node
  | parameter
  | recorder
  | output

namespace Call

def node? : Call → Option (String × NodeKind)
  | addNode name kind _ => some (name, kind)
  | addAggregatedNode name _ _ => some (name, .aggregated)
  | _ => none

def name? : Space → Call → Option String
  | .node, addNode name _ _ => some name
  | .node, addAggregatedNode name _ _ => some name
  | .parameter, createParameter name _ => some name
  | .recorder, createRecorder name _ => some name
  | .output, createOutput name _ _ => some name
  | _, _ => none

def HasSingle (calls : List Call) (name : String) : Prop :=
  ∃ kind volume, addNode name kind volume ∈ calls

def HasNode (calls : List Call) (name : String) (kind : NodeKind) : Prop :=
  ∃ call ∈ calls, call.node? = some (name, kind)

def HasParameter (calls : List Call) (name : String) : Prop :=
  ∃ type, createParameter name type ∈ calls

/-- Whether the parameter that a quantity names, if it names one, is created by some calls. -/
def HasQuantity (calls : List Call) (value : Quantity) : Prop :=
  ∀ name, value = .parameter name → HasParameter calls name

/-- Whether a call is justified by those before it, where runs accept some solvers. -/
def Justified (solvers : List String) (earlier : List Call) : Call → Prop
  | addNode _ kind _ => kind ≠ .aggregated
  | addAggregatedNode _ members factors =>
    (∀ member ∈ members, HasSingle earlier member) ∧
      ∀ xs, factors = some xs → xs.length = members.length
  | connect source target => HasSingle earlier source ∧ HasSingle earlier target
  | setCost node value => HasSingle earlier node ∧ HasQuantity earlier value
  | setBound node bound value =>
    (∃ kind, HasNode earlier node kind ∧ (bound.isVolume = true ↔ kind = .storage)) ∧
      HasQuantity earlier value
  | createParameter _ _ => True
  | createRecorder _ _ => True
  | createOutput _ _ _ => True
  | run solver _ _ _ => ∃ known ∈ solvers, known.toLower = solver.toLower

/-- Whether a log is in order: names are given once, and each call is justified where it stands. -/
structure WellFormed (solvers : List String) (calls : List Call) : Prop where
  distinct : ∀ space, (calls.filterMap (name? space)).Nodup
  justified : ∀ before call after, calls = before ++ call :: after →
    call.Justified solvers before

variable {solvers : List String} {calls : List Call}

theorem wellFormed_nil : WellFormed solvers [] where
  distinct := fun _ => List.nodup_nil
  justified := fun _ _ _ hsplit => by simp at hsplit

/-- A log stays in order when a justified call with a new name is added. -/
theorem WellFormed.concat (h : WellFormed solvers calls) {call : Call}
    (hjustified : call.Justified solvers calls)
    (hnew : ∀ space name, call.name? space = some name → name ∉ calls.filterMap (name? space)) :
    WellFormed solvers (calls ++ [call]) where
  distinct := by
    intro space
    rw [List.filterMap_append]
    cases hname : call.name? space with
    | none =>
      rw [List.filterMap_cons_none hname, List.filterMap_nil, List.append_nil]
      exact h.distinct space
    | some name =>
      rw [List.filterMap_cons_some hname, List.filterMap_nil, ← List.concat_eq_append]
      exact (h.distinct space).concat (hnew space name hname)
  justified := by
    intro before other after hsplit
    -- the call stands at the end, or where it stood before
    rcases List.eq_nil_or_concat after with rfl | ⟨after, last, rfl⟩
    · obtain ⟨rfl, hlast⟩ := List.append_inj' hsplit rfl
      rw [List.singleton_inj.mp hlast] at hjustified
      exact hjustified
    · rw [List.concat_eq_append, ← List.cons_append, ← List.append_assoc] at hsplit
      exact h.justified before other after (List.append_inj' hsplit rfl).1

theorem node?_ofRequest (request : Request) : (ofRequest request).node? = request.node? := by
  cases request with
  | _ => rfl

end Call

namespace Plan

open Call

variable {plan : Plan}

/-- Whatever a plan is asked, and whatever it answers, its calls tell what it holds. -/
def askAll (plan : Plan) (requests : List Request) : Plan :=
  requests.foldl (fun plan request => (plan.answer request).2) plan

theorem askAll_cons (plan : Plan) (request : Request) (rest : List Request) :
    plan.askAll (request :: rest) = (plan.answer request).2.askAll rest := rfl

/-- What a plan keeps when a request is granted, it keeps through all requests. -/
theorem askAll_induction {P : Plan → Prop}
    (hadd : ∀ plan request, P plan → plan.check request = .ok () → P (plan.add request))
    (hplan : P plan) (requests : List Request) : P (plan.askAll requests) := by
  induction requests generalizing plan with
  | nil => exact hplan
  | cons request rest ih =>
    rw [askAll_cons]
    cases hcheck : plan.check request with
    | ok _ =>
      rw [answer, hcheck]
      exact ih (hadd plan request hplan hcheck)
    | error _ =>
      rw [answer, hcheck]
      exact ih hplan

def names (plan : Plan) : Space → List String
  | .node => plan.nodes.map Prod.fst
  | .parameter => plan.parameterNames
  | .recorder => plan.recorders.map Prod.fst
  | .output => plan.outputs.map Prod.fst

theorem calls_add (plan : Plan) (request : Request) :
    (plan.add request).calls = plan.calls ++ [Call.ofRequest request] := by
  rw [add_eq]

theorem names_add (plan : Plan) (request : Request) (space : Space) :
    (plan.add request).names space =
      plan.names space ++ ((Call.ofRequest request).name? space).toList := by
  cases request <;> cases space <;>
    simp [add, names, parameterNames, Call.ofRequest, Call.name?]

/-- Whether a plan holds what its calls created. -/
structure Coupled (plan : Plan) : Prop where
  nodes_eq : plan.nodes = plan.calls.filterMap Call.node?
  names_eq : ∀ space, plan.names space = plan.calls.filterMap (Call.name? space)

namespace Coupled

theorem new (solvers : List String) : (Plan.new solvers).Coupled where
  nodes_eq := rfl
  names_eq := fun space => by cases space <;> rfl

/-- What a plan takes in, it holds and has a call for. -/
theorem add (h : plan.Coupled) (request : Request) : (plan.add request).Coupled where
  nodes_eq := by
    rw [calls_add, List.filterMap_append, ← h.nodes_eq, filterMap_cons_toList, List.filterMap_nil,
      List.append_nil, Call.node?_ofRequest, add_eq]
  names_eq := by
    intro space
    rw [names_add, calls_add, List.filterMap_append, ← h.names_eq, filterMap_cons_toList,
      List.filterMap_nil, List.append_nil]

theorem addAll (h : plan.Coupled) (requests : List Request) : (plan.addAll requests).Coupled := by
  induction requests generalizing plan with
  | nil => exact h
  | cons request rest ih => exact ih (h.add request)

theorem askAll (h : plan.Coupled) (requests : List Request) : (plan.askAll requests).Coupled :=
  askAll_induction (fun _ request hplan _ => hplan.add request) h requests

theorem hasNode_of_nodeKind? (h : plan.Coupled) {name : String} {kind : NodeKind}
    (hkind : plan.nodeKind? name = some kind) : HasNode plan.calls name kind := by
  obtain ⟨before, after, hsplit, -⟩ := List.lookup_eq_some_iff.mp hkind
  have hmem : (name, kind) ∈ plan.calls.filterMap Call.node? := by
    rw [← h.nodes_eq, hsplit]
    exact List.mem_append_right _ List.mem_cons_self
  exact List.mem_filterMap.mp hmem

/-- A node that the plan knows, and that is no group, is created by one of its calls. -/
theorem hasSingle_of_nodeKind? (h : plan.Coupled) {name : String}
    (hkind : ∃ kind, plan.nodeKind? name = some kind ∧ kind ≠ .aggregated) :
    HasSingle plan.calls name := by
  -- a node that is no group is not created by the call for groups
  obtain ⟨kind, hkind, hsingle⟩ := hkind
  obtain ⟨call, hcall, hnode⟩ := h.hasNode_of_nodeKind? hkind
  cases call with
  | addNode _ _ volume =>
    cases hnode
    exact ⟨kind, volume, hcall⟩
  | addAggregatedNode _ _ _ =>
    cases hnode
    exact absurd rfl hsingle
  | _ => cases hnode

/-- A parameter that the plan knows is created by one of its calls. -/
theorem hasParameter_of_mem (h : plan.Coupled) {name : String}
    (hname : name ∈ plan.parameterNames) : HasParameter plan.calls name := by
  have hmem : name ∈ plan.calls.filterMap (Call.name? .parameter) := by
    rw [← h.names_eq]
    exact hname
  obtain ⟨call, hcall, hcreated⟩ := List.mem_filterMap.mp hmem
  cases call with
  | createParameter _ type =>
    cases hcreated
    exact ⟨type, hcall⟩
  | _ => cases hcreated

theorem hasQuantity (h : plan.Coupled) {value : Quantity}
    (hvalue : ∀ name, value.parameter? = some name → name ∈ plan.parameterNames) :
    HasQuantity plan.calls value := by
  rintro name rfl
  exact h.hasParameter_of_mem (hvalue name rfl)

/-- What a plan grants is justified by its calls. -/
theorem justified_of_check (h : plan.Coupled) {request : Request}
    (hcheck : plan.check request = .ok ()) :
    (Call.ofRequest request).Justified plan.solvers plan.calls := by
  -- each check asks for what the plan holds, and the plan holds nothing that no call made
  cases request with
  | addNode name kind volume => exact (check_addNode_iff.mp hcheck).1
  | addAggregatedNode name members factors =>
    obtain ⟨-, hmembers, hfactors⟩ := check_addAggregatedNode_iff.mp hcheck
    exact ⟨fun member hmember => h.hasSingle_of_nodeKind? (hmembers member hmember), hfactors⟩
  | connect source target =>
    obtain ⟨hsource, htarget⟩ := check_connect_iff.mp hcheck
    exact ⟨h.hasSingle_of_nodeKind? hsource, h.hasSingle_of_nodeKind? htarget⟩
  | setCost node value =>
    obtain ⟨hnode, hvalue⟩ := check_setCost_iff.mp hcheck
    exact ⟨h.hasSingle_of_nodeKind? hnode, h.hasQuantity hvalue⟩
  | setBound node bound value =>
    obtain ⟨⟨kind, hkind, hfits⟩, hvalue⟩ := check_setBound_iff.mp hcheck
    exact ⟨⟨kind, h.hasNode_of_nodeKind? hkind, hfits⟩, h.hasQuantity hvalue⟩
  | createParameter _ _ _ => trivial
  | createRecorder _ _ _ => trivial
  | createOutput _ _ _ => trivial
  | run solver start stop timestep =>
    have haccepted : plan.acceptsSolver solver = true := by
      by_contra hnot
      rw [check, if_neg hnot] at hcheck
      cases hcheck
    obtain ⟨known, hknown, hsame⟩ := List.any_eq_true.mp haccepted
    exact ⟨known, hknown, beq_iff_eq.mp hsame⟩

end Coupled

/-- What a plan grants takes no name that the plan holds. -/
theorem new_of_check {request : Request} (hcheck : plan.check request = .ok ()) {space : Space}
    {name : String} (hname : (Call.ofRequest request).name? space = some name) :
    name ∉ plan.names space := by
  -- a request takes a name in one space only, the one that its check looks at
  cases request with
  | addNode other kind volume =>
    cases space with
    | node =>
      cases hname
      exact nodeKind?_eq_none_iff.mp (check_addNode_iff.mp hcheck).2
    | _ => cases hname
  | addAggregatedNode other members factors =>
    cases space with
    | node =>
      cases hname
      exact nodeKind?_eq_none_iff.mp (check_addAggregatedNode_iff.mp hcheck).1
    | _ => cases hname
  | createParameter other type spec =>
    cases space with
    | parameter =>
      cases hname
      exact (check_createParameter_iff.mp hcheck).1
    | _ => cases hname
  | createRecorder other type spec =>
    cases space with
    | recorder =>
      cases hname
      exact (check_createRecorder_iff.mp hcheck).1
    | _ => cases hname
  | createOutput other type spec =>
    cases space with
    | output =>
      cases hname
      exact check_createOutput_iff.mp hcheck
    | _ => cases hname
  | _ => cases space <;> cases hname

/-- Whether a plan holds what its calls created, and they are in order. -/
structure Regular (solvers : List String) (plan : Plan) : Prop where
  coupled : plan.Coupled
  solvers_eq : plan.solvers = solvers
  wellFormed : WellFormed solvers plan.calls

/-- A request that is granted is justified by the calls before it, and the space of its name had no
such name. -/
theorem Regular.add {solvers : List String} {request : Request} (h : plan.Regular solvers)
    (hcheck : plan.check request = .ok ()) : (plan.add request).Regular solvers where
  coupled := h.coupled.add request
  solvers_eq := by rw [add_eq, h.solvers_eq]
  wellFormed := by
    have hjustified := h.coupled.justified_of_check hcheck
    rw [h.solvers_eq] at hjustified
    rw [calls_add]
    refine h.wellFormed.concat hjustified fun space name hname => ?_
    rw [← h.coupled.names_eq]
    exact new_of_check hcheck hname

/-- Whatever a new plan is asked, its log is in order. -/
theorem wellFormed_calls_askAll (solvers : List String) (requests : List Request) :
    WellFormed solvers ((Plan.new solvers).askAll requests).calls := by
  have hnew : (Plan.new solvers).Regular solvers :=
    { coupled := Coupled.new solvers
      solvers_eq := rfl
      wellFormed := wellFormed_nil }
  exact (askAll_induction (fun _ _ hplan hcheck => hplan.add hcheck) hnew requests).wellFormed

end Plan

end FlowPlan
