import FlowPlan.Resolution

namespace FlowPlan

namespace Build

variable {σ α β : Type}

/-- The result of a build that starts in `state`, and the state in which it leaves the engine. -/
def outcome (build : Build σ α) (state : σ) : Except ModelError α × σ :=
  (build.run.run state).value

@[simp] theorem outcome_lift (x : Except ModelError α) (state : σ) :
    outcome (liftM x : Build σ α) state = (x, state) := rfl

@[simp] theorem outcome_note (level : LogLevel) (text : String) (state : σ) :
    outcome (liftM (Logged.note level text) : Build σ Unit) state = (.ok (), state) := rfl

@[simp] theorem outcome_ask (engine : Engine σ) (request : Request) (state : σ) :
    outcome (engine.ask request) state =
      (.ok (engine.answer request state).1, (engine.answer request state).2) := rfl

/-- The second of two steps starts in the state in which the first one ends, unless this one fails.
-/
theorem outcome_bind (x : Build σ α) (f : α → Build σ β) (state : σ) :
    outcome (x >>= f) state =
      match outcome x state with
      | (.ok a, next) => outcome (f a) next
      | (.error e, next) => (.error e, next) := by
  change (((x >>= f).run).run state).value = _
  rw [ExceptT.run_bind, StateT.run_bind, Logged.value_bind]
  unfold outcome
  rcases (x.run.run state).value with ⟨_ | a, next⟩
  · rfl
  · rfl

theorem outcome_bind_of_ok {x : Build σ α} {state next : σ} {a : α}
    (hx : outcome x state = (.ok a, next)) (f : α → Build σ β) :
    outcome (x >>= f) state = outcome (f a) next := by
  rw [outcome_bind, hx]

theorem outcome_bind_of_error {x : Build σ α} {state next : σ} {e : ModelError}
    (hx : outcome x state = (.error e, next)) (f : α → Build σ β) :
    outcome (x >>= f) state = (.error e, next) := by
  rw [outcome_bind, hx]

/-- Logging decides nothing. -/
theorem outcome_note_bind (level : LogLevel) (text : String) (f : Unit → Build σ β) (state : σ) :
    outcome ((liftM (Logged.note level text) : Build σ Unit) >>= f) state = outcome (f ()) state :=
  outcome_bind_of_ok (outcome_note level text state) f

/-- A request that has to be granted is answered by the engine, and a refusal of it ends the
build. -/
theorem outcome_demand (engine : Engine σ) (phase : BuildPhase) (entity : String)
    (request : Request) (state : σ) :
    outcome (engine.demand phase entity request) state =
      ((engine.answer request state).1.mapError (.engine phase entity),
        (engine.answer request state).2) := by
  unfold Engine.demand
  rw [outcome_bind_of_ok (outcome_ask engine request state)]
  cases (engine.answer request state).1 with
  | ok _ => rfl
  | error source => rfl

end Build

end FlowPlan
