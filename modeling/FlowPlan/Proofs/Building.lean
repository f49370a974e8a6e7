import FlowPlan.Proofs.Attempt
import FlowPlan.Proofs.Demand

namespace FlowPlan

namespace Model

open Build Resolution

variable (model : Model)

def networkRequests : List Request :=
  model.nodeRequests ++ model.edges.flatMap model.edgeRequests

def finalRequests : List Request :=
  model.recorders.entities.map model.recorderRequest ++
    (model.outputs.entities.map model.outputRequest ++
      model.nodes.entities.flatMap constraintRequests)

def report (resolution : Resolution) : BuildReport where
  nodes := model.nodes.size
  edges := model.edges.length
  resolution := resolution
  recorders := model.recorders.size
  outputs := model.outputs.size
  constraints := model.constraintCount

/-- How a build can go: it ends with its network, with its parameters, with what comes after them,
or not before everything is there. -/
inductive Built : List Exchange → Except ModelError BuildReport → Prop
  | unfounded {transcript : List Exchange} {e : ModelError}
      (network : Demanded model.networkRequests transcript (.error e)) : Built transcript (.error e)
  | unresolved {transcript : List Exchange} {e : ModelError}
      (course : Course model.specContext model.parameters transcript (.error e)) :
      Built (model.networkRequests.map Exchange.grant ++ transcript) (.error e)
  | unfinished {xs ys : List Exchange} {resolution : Resolution} {e : ModelError}
      (course : Course model.specContext model.parameters xs (.ok resolution))
      (final : Demanded model.finalRequests ys (.error e)) :
      Built (model.networkRequests.map Exchange.grant ++ (xs ++ ys)) (.error e)
  | finished {xs : List Exchange} {resolution : Resolution}
      (course : Course model.specContext model.parameters xs (.ok resolution)) :
      Built (model.networkRequests.map Exchange.grant ++
        (xs ++ model.finalRequests.map Exchange.grant)) (.ok (model.report resolution))

section

variable {σ : Type}

def createParameters (engine : Engine σ) (model : Model) : Build σ Resolution := do
  let resolution ← resolve engine model.specContext model.parameters
  Logged.note .debug ("Created " ++ toString resolution.order.length ++ " parameter(s) in " ++
    toString resolution.rounds ++ " round(s)")
  return resolution

def concludeBuild (model : Model) (resolution : Resolution) : Build σ BuildReport := do
  let report := model.report resolution
  Logged.note .info ("Built model: " ++ toString report.nodes ++ " node(s), " ++
    toString report.edges ++ " edge(s), " ++ toString report.parameters ++ " parameter(s), " ++
    toString report.recorders ++ " recorder(s), " ++ toString report.outputs ++ " output(s), " ++
    toString report.constraints ++ " constraint(s)")
  return report

/-- A build goes phase by phase. -/
theorem build_eq (engine : Engine σ) :
    model.build engine = (do
      model.createNodes engine
      model.createEdges engine
      let resolution ← model.createParameters engine
      model.createRecorders engine
      model.createOutputs engine
      model.applyConstraints engine
      model.concludeBuild resolution) := by
  unfold build createParameters
  simp only [bind_assoc, pure_bind]
  rfl

theorem outcome_concludeBuild (resolution : Resolution) (state : σ) :
    outcome (model.concludeBuild resolution) state = (.ok (model.report resolution), state) := rfl

end

theorem follows_createParameters :
    Follows (fun _ engine => model.createParameters engine)
      (Course model.specContext model.parameters) := by
  refine (follows_resolve model.specContext model.parameters).bind
    (R := fun resolution transcript result => transcript = [] ∧ result = .ok resolution)
    (fun resolution => ?_) ?_ fun _ _ hcourse => hcourse
  · exact Follows.of_outcome_eq (fun _ _ => rfl) ⟨rfl, rfl⟩
  · rintro xs resolution _ _ hcourse ⟨rfl, rfl⟩
    rwa [List.append_nil]

/-- However an engine answers, a build goes through its phases in order and stops at the first
failure. -/
theorem follows_build : Follows (fun _ engine => model.build engine) model.Built := by
  -- the phases before the parameters are one part, and so are those after them
  have hbuild : (fun (σ : Type) (engine : Engine σ) => model.build engine) = fun _ engine => (do
      (do model.createNodes engine
          model.createEdges engine)
      let resolution ← model.createParameters engine
      (do model.createRecorders engine
          (do model.createOutputs engine
              model.applyConstraints engine))
      model.concludeBuild resolution) := by
    funext σ engine
    rw [build_eq]
    simp only [bind_assoc]
  rw [hbuild]
  have hnetwork := model.follows_createNodes.andThen model.follows_createEdges
  have hfinal := model.follows_createRecorders.andThen
    (model.follows_createOutputs.andThen model.follows_applyConstraints)
  have hend (resolution : Resolution) : Follows (fun _ _ => model.concludeBuild resolution)
      fun transcript result => transcript = [] ∧ result = .ok (model.report resolution) :=
    Follows.of_outcome_eq (fun _ _ => model.outcome_concludeBuild resolution _) ⟨rfl, rfl⟩
  -- each part of the build adds its transcript to that of the parts before
  refine hnetwork.bind
    (R := fun _ transcript result =>
      model.Built (model.networkRequests.map Exchange.grant ++ transcript) result)
    (fun _ => ?_) ?_ ?_
  · refine model.follows_createParameters.bind
      (R := fun resolution transcript result => ∀ xs,
        Course model.specContext model.parameters xs (.ok resolution) →
          model.Built (model.networkRequests.map Exchange.grant ++ (xs ++ transcript)) result)
      (fun resolution => ?_) ?_ ?_
    · refine hfinal.bind (fun _ => hend resolution) ?_ ?_
      · rintro xs _ _ _ ⟨⟩ ⟨rfl, rfl⟩ before hcourse
        rw [List.append_nil]
        exact .finished hcourse
      · intro ys e hdemanded xs hcourse
        exact .unfinished hcourse hdemanded
    · intro xs resolution ys result hcourse hrest
      exact hrest xs hcourse
    · intro xs e hcourse
      exact .unresolved hcourse
  · rintro xs _ ys result ⟨⟩ hrest
    exact hrest
  · intro xs e hdemanded
    exact .unfounded hdemanded

end Model

end FlowPlan
