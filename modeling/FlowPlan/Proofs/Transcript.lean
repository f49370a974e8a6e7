import FlowPlan.Proofs.Outcome

namespace FlowPlan

structure Exchange where
  request : Request
  answer : Answer

namespace Exchange

def grant (request : Request) : Exchange where
  request := request
  answer := .ok ()

def granted? (exchange : Exchange) : Option Request :=
  match exchange.answer with
  | .ok () => some exchange.request
  | .error _ => none

theorem request_eq_of_granted? {exchange : Exchange} {request : Request}
    (h : exchange.granted? = some request) : exchange.request = request := by
  unfold granted? at h
  split at h
  · exact Option.some.inj h
  · cases h

/-- A request that was granted is all that there is to the exchange. -/
theorem eq_grant_of_granted? {exchange : Exchange} {request : Request}
    (h : exchange.granted? = some request) : grant request = exchange := by
  unfold granted? at h
  split at h
  · rename_i hanswer
    cases Option.some.inj h
    rw [grant, ← hanswer]
  · cases h

theorem map_request_map_grant (requests : List Request) :
    (requests.map grant).map request = requests := by
  rw [List.map_map]
  exact List.map_id requests

theorem filterMap_granted?_map_grant (requests : List Request) :
    (requests.map grant).filterMap granted? = requests := by
  rw [List.filterMap_map]
  exact List.filterMap_some

end Exchange

namespace Engine

variable {σ : Type}

/-- Whether an engine, asked the requests of a transcript one after the other, gives the answers
that stand there, and is in the state `last` after them. -/
def Answers (engine : Engine σ) : σ → List Exchange → σ → Prop
  | state, [], last => last = state
  | state, exchange :: rest, last =>
    (engine.answer exchange.request state).1 = exchange.answer ∧
      engine.Answers (engine.answer exchange.request state).2 rest last

/-- An engine's answers can be cut anywhere, at some state in between. -/
theorem answers_append_iff {engine : Engine σ} {state last : σ} {xs ys : List Exchange} :
    engine.Answers state (xs ++ ys) last ↔
      ∃ middle, engine.Answers state xs middle ∧ engine.Answers middle ys last := by
  induction xs generalizing state with
  | nil =>
    constructor
    · exact fun h => ⟨state, rfl, h⟩
    · rintro ⟨middle, rfl, h⟩
      exact h
  | cons exchange rest ih =>
    rw [List.cons_append, Answers, ih]
    constructor
    · rintro ⟨hanswer, middle, hrest, hys⟩
      exact ⟨middle, ⟨hanswer, hrest⟩, hys⟩
    · rintro ⟨middle, ⟨hanswer, hrest⟩, hys⟩
      exact ⟨hanswer, middle, hrest, hys⟩

/-- An engine that also writes down what it is asked and what it answers. -/
def recorded (engine : Engine σ) : Engine (σ × List Exchange) where
  answer request state :=
    ((engine.answer request state.1).1, (engine.answer request state.1).2,
      state.2 ++ [{ request, answer := (engine.answer request state.1).1 }])

end Engine

namespace Build

abbrev Part (α : Type) :=
  (σ : Type) → Engine σ → Build σ α

variable {σ α β : Type}

/-- Whether a part of a build, started in some state of an engine, comes to a result and a last
state over a transcript: the engine answers so, and an engine that writes down what it is asked
writes down just that. -/
structure Runs (part : Part α) (engine : Engine σ) (state : σ) (transcript : List Exchange)
    (result : Except ModelError α) (last : σ) : Prop where
  outcome_eq : outcome (part σ engine) state = (result, last)
  answers : engine.Answers state transcript last
  recorded : ∀ past, outcome (part _ engine.recorded) (state, past) =
    (result, last, past ++ transcript)

namespace Runs

variable {part : Part α} {next : α → Part β} {engine : Engine σ} {state middle last : σ}
  {xs ys : List Exchange}

/-- Two parts of a program run one after the other, and so do their transcripts. -/
theorem bind {a : α} {result : Except ModelError β}
    (hpart : Runs part engine state xs (.ok a) middle)
    (hnext : Runs (next a) engine middle ys result last) :
    Runs (fun _ engine => part _ engine >>= fun a => next a _ engine) engine state (xs ++ ys)
      result last where
  outcome_eq := by rw [outcome_bind_of_ok hpart.outcome_eq, hnext.outcome_eq]
  answers := Engine.answers_append_iff.mpr ⟨middle, hpart.answers, hnext.answers⟩
  recorded := by
    intro past
    rw [outcome_bind_of_ok (hpart.recorded past), hnext.recorded, List.append_assoc]

theorem bind_error {e : ModelError} (hpart : Runs part engine state xs (.error e) last) :
    Runs (fun _ engine => part _ engine >>= fun a => next a _ engine) engine state xs (.error e)
      last where
  outcome_eq := outcome_bind_of_error hpart.outcome_eq _
  answers := hpart.answers
  recorded := fun past => outcome_bind_of_error (hpart.recorded past) _

end Runs

/-- Whether the transcripts and results of a part of a build keep to a rule, whatever the engine
answers. -/
structure Follows (part : Part α) (rule : List Exchange → Except ModelError α → Prop) : Prop where
  exists_runs : ∀ {σ : Type} (engine : Engine σ) (state : σ), ∃ transcript result last,
    Runs part engine state transcript result last ∧ rule transcript result

namespace Follows

variable {part : Part α} {rule : List Exchange → Except ModelError α → Prop}

/-- A part that asks an engine nothing. -/
theorem of_outcome_eq {result : Except ModelError α}
    (hpart : ∀ {σ : Type} (engine : Engine σ) (state : σ),
      outcome (part σ engine) state = (result, state))
    (hrule : rule [] result) : Follows part rule := by
  constructor
  intro σ engine state
  refine ⟨[], result, state, ?_, hrule⟩
  exact {
    outcome_eq := hpart engine state
    answers := rfl
    recorded := fun past => by rw [hpart, List.append_nil] }

theorem ask (request : Request) :
    Follows (fun _ engine => engine.ask request) fun transcript result =>
      ∃ answer, transcript = [{ request, answer }] ∧ result = .ok answer := by
  constructor
  intro σ engine state
  let answer := (engine.answer request state).1
  refine ⟨[{ request, answer }], .ok answer, (engine.answer request state).2, ?_, answer, rfl, rfl⟩
  exact {
    outcome_eq := outcome_ask engine request state
    answers := ⟨rfl, rfl⟩
    recorded := fun past => outcome_ask engine.recorded request (state, past) }

/-- A rule that is followed can be weakened. -/
theorem mono {rule' : List Exchange → Except ModelError α → Prop} (hpart : Follows part rule)
    (himp : ∀ transcript result, rule transcript result → rule' transcript result) :
    Follows part rule' := by
  constructor
  intro σ engine state
  obtain ⟨transcript, result, last, hruns, hrule⟩ := hpart.exists_runs engine state
  exact ⟨transcript, result, last, hruns, himp transcript result hrule⟩

/-- What follows a part is reached when that comes to a value, and goes on with its transcript. -/
theorem bind {next : α → Part β} {R : α → List Exchange → Except ModelError β → Prop}
    {whole : List Exchange → Except ModelError β → Prop}
    (hpart : Follows part rule) (hnext : ∀ a, Follows (next a) (R a))
    (hok : ∀ xs a ys result, rule xs (.ok a) → R a ys result → whole (xs ++ ys) result)
    (herror : ∀ xs e, rule xs (.error e) → whole xs (.error e)) :
    Follows (fun _ engine => part _ engine >>= fun a => next a _ engine) whole := by
  constructor
  intro σ engine state
  obtain ⟨xs, result, middle, hruns, hrule⟩ := hpart.exists_runs engine state
  cases result with
  | error e => exact ⟨xs, .error e, middle, hruns.bind_error, herror xs e hrule⟩
  | ok a =>
    obtain ⟨ys, result, last, hrest, hrule'⟩ := (hnext a).exists_runs engine middle
    exact ⟨xs ++ ys, result, last, hruns.bind hrest, hok xs a ys result hrule hrule'⟩

/-- Logging says nothing to the engine. -/
theorem note_bind (level : LogLevel) (text : String) (hpart : Follows part rule) :
    Follows (fun _ engine => liftM (Logged.note level text) >>= fun _ => part _ engine) rule := by
  have hnote : Follows (fun _ _ => liftM (Logged.note level text))
      fun transcript result => transcript = [] ∧ result = .ok () :=
    of_outcome_eq (fun _ state => outcome_note level text state) ⟨rfl, rfl⟩
  refine hnote.bind (fun _ => hpart) ?_ ?_
  · rintro _ _ transcript result ⟨rfl, -⟩ hrule
    exact hrule
  · rintro _ _ ⟨-, hresult⟩
    cases hresult

theorem bind_pure {f : α → β} {whole : List Exchange → Except ModelError β → Prop}
    (hpart : Follows part rule)
    (hwhole : ∀ transcript result, rule transcript result → whole transcript (result.map f)) :
    Follows (fun _ engine => part _ engine >>= fun a => pure (f a)) whole := by
  have hpure (a : α) : Follows (fun _ _ => pure (f a))
      fun transcript result => transcript = [] ∧ result = .ok (f a) :=
    of_outcome_eq (fun _ _ => rfl) ⟨rfl, rfl⟩
  refine hpart.bind hpure ?_ ?_
  · rintro transcript a _ _ hrule ⟨rfl, rfl⟩
    rw [List.append_nil]
    exact hwhole transcript (.ok a) hrule
  · intro transcript e hrule
    exact hwhole transcript (.error e) hrule

end Follows

end Build

end FlowPlan
