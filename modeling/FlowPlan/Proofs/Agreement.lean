import FlowPlan.Proofs.Admission
import FlowPlan.Proofs.Outcome

namespace FlowPlan

namespace Plan

def withCalls (plan : Plan) (calls : List Call) : Plan :=
  { plan with calls := plan.calls ++ calls }

@[simp] theorem withCalls_nil (plan : Plan) : plan.withCalls [] = plan := by
  simp [withCalls]

/-- A request that declares nothing adds its call, and nothing else. -/
theorem add_withCalls (plan : Plan) (calls : List Call) {request : Request}
    (hsilent : request.Silent) :
    (plan.withCalls calls).add request =
      plan.withCalls (calls ++ [Call.ofRequest request]) := by
  obtain ⟨hnode, hparameter, hrecorder, houtput⟩ := hsilent
  rw [add_eq, hnode, hparameter, hrecorder, houtput]
  simp [withCalls]

end Plan

namespace Build

/-- Whether a build comes to one result on two plans that have taken in the same calls since they
were `first` and `second`, and adds the same calls to both. -/
structure Agrees (first second : Plan) {α : Type} (build : Build Plan α) : Prop where
  exists_outcome : ∀ calls, ∃ result later,
    outcome build (first.withCalls calls) = (result, first.withCalls later) ∧
      outcome build (second.withCalls calls) = (result, second.withCalls later)

namespace Agrees

variable {first second : Plan} {α β : Type}

theorem pure (a : α) : Agrees first second (Pure.pure a) :=
  ⟨fun calls => ⟨.ok a, calls, rfl, rfl⟩⟩

theorem note (level : LogLevel) (text : String) :
    Agrees first second (liftM (Logged.note level text)) :=
  ⟨fun calls => ⟨.ok (), calls, rfl, rfl⟩⟩

/-- Two plans go the same way through two parts when they do so through each. -/
theorem bind {x : Build Plan α} {f : α → Build Plan β} (hx : Agrees first second x)
    (hf : ∀ a, Agrees first second (f a)) : Agrees first second (x >>= f) := by
  constructor
  intro calls
  obtain ⟨result, later, hfirst, hsecond⟩ := hx.exists_outcome calls
  cases result with
  | error e =>
    exact ⟨.error e, later, outcome_bind_of_error hfirst f, outcome_bind_of_error hsecond f⟩
  | ok a =>
    rw [outcome_bind_of_ok hfirst, outcome_bind_of_ok hsecond]
    exact (hf a).exists_outcome later

/-- The same for a part that is carried out for each of some items. -/
theorem forM {ι : Type} {items : List ι} {part : ι → Build Plan Unit}
    (h : ∀ item ∈ items, Agrees first second (part item)) :
    Agrees first second (items.forM part) := by
  induction items with
  | nil => exact pure ()
  | cons item rest ih =>
    obtain ⟨hitem, hrest⟩ := List.forall_mem_cons.mp h
    exact hitem.bind fun _ => ih hrest

/-- What declares nothing is granted by both plans, or refused by both for the same reason. -/
theorem demand {request : Request} (hsilent : request.Silent)
    (hcheck : first.check request = second.check request) (phase : BuildPhase)
    (entity : String) : Agrees first second (Plan.engine.demand phase entity request) := by
  constructor
  intro calls
  -- a silent request is checked against names only, and the two plans have the same ones
  have hsame (plan : Plan) : (plan.withCalls calls).check request = plan.check request :=
    Plan.check_eq_of_silent hsilent rfl rfl rfl
  have hgranted (plan : Plan) (h : plan.check request = .ok ()) :
      Plan.engine.answer request (plan.withCalls calls) =
        (.ok (), plan.withCalls (calls ++ [Call.ofRequest request])) := by
    change (plan.withCalls calls).answer request = _
    simp only [Plan.answer, hsame, h, Plan.add_withCalls plan calls hsilent]
  have hrefused (plan : Plan) (source : EngineError) (h : plan.check request = .error source) :
      Plan.engine.answer request (plan.withCalls calls) =
        (.error source, plan.withCalls calls) := by
    change (plan.withCalls calls).answer request = _
    simp only [Plan.answer, hsame, h]
  -- both plans grant the request, or both refuse it with the same error
  rw [outcome_demand, outcome_demand]
  cases hfirst : first.check request with
  | ok _ =>
    rw [hgranted first hfirst, hgranted second (hcheck ▸ hfirst)]
    exact ⟨_, _, rfl, rfl⟩
  | error source =>
    rw [hrefused first source hfirst, hrefused second source (hcheck ▸ hfirst)]
    exact ⟨_, _, rfl, rfl⟩

end Agrees

end Build

end FlowPlan
