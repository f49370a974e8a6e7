import FlowPlan.Proofs.Reference
import FlowPlan.Proofs.Round
import Mathlib.Data.List.Induction

namespace FlowPlan

namespace Resolution

/-- What holds of each item when the items before it have it holds of all. -/
theorem forall_mem_of_forall_before {α : Type} {P : α → Prop} {xs : List α}
    (h : ∀ before x after, xs = before ++ x :: after → (∀ y ∈ before, P y) → P x) :
    ∀ x ∈ xs, P x := by
  induction xs using List.reverseRecOn with
  | nil => exact fun x hx => absurd hx List.not_mem_nil
  | append_singleton ys y ih =>
    have hys : ∀ x ∈ ys, P x := ih fun before x after hsplit =>
      h before x (after ++ [y]) (by rw [hsplit, List.append_assoc, List.cons_append])
    intro x hx
    rcases List.mem_append.mp hx with hx | hx
    · exact hys x hx
    · rw [List.mem_singleton.mp hx]
      exact h ys y [] rfl hys

section

variable {σ : Type} {engine : Engine σ} {parameters : Collection Parameter}

theorem outcome_runRounds_nil (sofar : Resolution) (state : σ) :
    Build.outcome (runRounds engine parameters sofar []) state = (.ok sofar, state) := by
  rw [runRounds]
  rfl

/-- With something pending there is another round, and after it more rounds if it created
anything. -/
theorem outcome_runRounds {sofar : Resolution} {pending : List Pending} (hne : pending ≠ [])
    (state : σ) :
    Build.outcome (runRounds engine parameters sofar pending) state =
      match Build.outcome (offer engine pending) state with
      | (.ok round, next) =>
        if round.deferred.length < pending.length then
          Build.outcome (runRounds engine parameters
            { rounds := sofar.rounds + 1, order := sofar.order ++ round.created }
            round.deferred) next
        else (.error (diagnose parameters (round.deferred.map Pending.parameter)), next)
      | (.error e, next) => (.error e, next) := by
  cases pending with
  | nil => exact absurd rfl hne
  | cons first rest =>
    rw [runRounds, Build.outcome_bind]
    rcases Build.outcome (offer engine (first :: rest)) state with ⟨_ | round, next⟩
    · rfl
    · dsimp only
      rw [Build.outcome_note_bind]
      split
      · rfl
      · rfl

/-- Induction over the rounds of a run, whichever engine it is against. -/
theorem outcome_runRounds_induction (engine : Engine σ) (parameters : Collection Parameter)
    {motive : Resolution → List Pending → σ → Except ModelError Resolution × σ → Prop}
    (done : ∀ sofar state, motive sofar [] state (.ok sofar, state))
    (failed : ∀ sofar pending state e next, pending ≠ [] →
      Build.outcome (offer engine pending) state = (.error e, next) →
      motive sofar pending state (.error e, next))
    (stuck : ∀ sofar pending state round next, pending ≠ [] →
      Build.outcome (offer engine pending) state = (.ok round, next) →
      pending.length ≤ round.deferred.length →
      motive sofar pending state
        (.error (diagnose parameters (round.deferred.map Pending.parameter)), next))
    (again : ∀ sofar pending state round next result, pending ≠ [] →
      Build.outcome (offer engine pending) state = (.ok round, next) →
      round.deferred.length < pending.length →
      motive { rounds := sofar.rounds + 1, order := sofar.order ++ round.created } round.deferred
        next result →
      motive sofar pending state result)
    (sofar : Resolution) (pending : List Pending) (state : σ) :
    motive sofar pending state
      (Build.outcome (runRounds engine parameters sofar pending) state) := by
  by_cases hne : pending = []
  · rw [hne, outcome_runRounds_nil]
    exact done sofar state
  rw [outcome_runRounds hne]
  rcases hround : Build.outcome (offer engine pending) state with ⟨e | round, next⟩
  · exact failed sofar pending state e next hne hround
  · dsimp only
    split
    · rename_i hlt
      -- fewer parameters are pending in the rounds after this one
      exact again sofar pending state round next _ hne hround hlt
        (outcome_runRounds_induction engine parameters done failed stuck again _ round.deferred
          next)
    · rename_i hlt
      exact stuck sofar pending state round next hne hround (Nat.not_lt.mp hlt)
termination_by pending.length

end

/-- The parameters of a collection, ready to be offered to an engine. -/
structure Prepared (parameters : Collection Parameter) (all : List Pending) : Prop where
  parameters : all.map Pending.parameter = parameters.entities
  fits : ∀ p ∈ all, p.Fits

namespace Prepared

variable {parameters : Collection Parameter} {all : List Pending}

theorem names_eq (h : Prepared parameters all) : all.map Pending.name = parameters.names := by
  unfold Collection.names
  rw [← h.parameters, List.map_map]
  rfl

theorem nodup (h : Prepared parameters all) : (all.map Pending.name).Nodup :=
  h.names_eq ▸ parameters.nodup

theorem mem_entities (h : Prepared parameters all) {p : Pending} (hp : p ∈ all) :
    p.parameter ∈ parameters.entities :=
  h.parameters ▸ List.mem_map_of_mem hp

theorem exists_pending (h : Prepared parameters all) {p : Parameter}
    (hp : p ∈ parameters.entities) : ∃ q ∈ all, q.parameter = p := by
  rw [← h.parameters] at hp
  exact List.mem_map.mp hp

end Prepared

section

variable {context : SpecContext} {parameters : Collection Parameter}

theorem fits_of_spec {p : Parameter} {spec : ComponentSpec} (h : p.spec context = .ok spec) :
    Pending.Fits { parameter := p, spec } := by
  obtain ⟨files, -, hspec⟩ := bind_eq_ok_iff.mp h
  cases hspec
  exact ⟨rfl, rfl⟩

/-- A specification can only fail for want of a table, or of any source of data. -/
theorem error_of_spec {p : Parameter} {e : ModelError} (h : p.spec context = .error e) :
    (∃ sect name, e = .notFound sect name) ∨
      ∃ sect name details, e = .invalid sect name details := by
  -- only a table can be missing, and only a file can be unnamed
  have hfile (frame : DataFrameParameter) (h : Parameter.dataFile context frame = .error e) :
      (∃ sect name, e = .notFound sect name) ∨
        ∃ sect name details, e = .invalid sect name details := by
    unfold Parameter.dataFile at h
    split at h
    · cases h
    · rcases bind_eq_error_iff.mp h with htable | ⟨_, -, hurl⟩
      · exact Or.inl ⟨_, _, (Collection.get_eq_error_iff.mp htable).2⟩
      · cases hurl
    · cases h
      exact Or.inr ⟨_, _, _, rfl⟩
  unfold Parameter.spec at h
  rcases bind_eq_error_iff.mp h with hfiles | ⟨_, -, hspec⟩
  · unfold Parameter.files at hfiles
    split at hfiles
    · rcases bind_eq_error_iff.mp hfiles with hdata | ⟨_, -, hlist⟩
      · exact hfile _ hdata
      · cases hlist
    · cases hfiles
  · cases hspec

theorem exists_spec_error_of_specs_error {e : ModelError}
    (h : specs context parameters = .error e) :
    ∃ p ∈ parameters.entities, p.spec context = .error e := by
  obtain ⟨p, hmem, hp⟩ := exists_error_of_mapM_eq_error h
  rcases bind_eq_error_iff.mp hp with hspec | ⟨_, -, hpending⟩
  · exact ⟨p, hmem, hspec⟩
  · cases hpending

/-- There is one spec for each parameter, in the order of the collection. -/
theorem specs_eq {all : List Pending} :
    specs context parameters = .ok all ↔
      List.Forall₂ (fun p q => q.parameter = p ∧ p.spec context = .ok q.spec)
        parameters.entities all := by
  have hitem (p : Parameter) (q : Pending) :
      (do return { parameter := p, spec := ← p.spec context } : Except ModelError Pending) =
        .ok q ↔ q.parameter = p ∧ p.spec context = .ok q.spec := by
    rw [bind_eq_ok_iff]
    constructor
    · rintro ⟨spec, hspec, hq⟩
      cases hq
      exact ⟨rfl, hspec⟩
    · rintro ⟨rfl, hspec⟩
      exact ⟨q.spec, hspec, rfl⟩
  unfold specs
  rw [mapM_eq_ok_iff]
  simp only [hitem]

theorem spec_of_mem_specs {all : List Pending} (h : specs context parameters = .ok all) :
    ∀ q ∈ all, q.parameter ∈ parameters.entities ∧ q.parameter.spec context = .ok q.spec := by
  refine forall_mem_of_forall₂ (specs_eq.mp h) fun p hp q hpq => ?_
  obtain ⟨rfl, hspec⟩ := hpq
  exact ⟨hp, hspec⟩

/-- The specs are prepared for resolution: in the order of the collection, each fit to its
parameter. -/
theorem prepared_of_specs {all : List Pending} (h : specs context parameters = .ok all) :
    Prepared parameters all := by
  -- both follow from how the lists are made up, item by item
  have hboth : all.map Pending.parameter = parameters.entities ∧ ∀ q ∈ all, q.Fits := by
    have hall := specs_eq.mp h
    clear h
    generalize parameters.entities = entities at hall ⊢
    induction hall with
    | nil => exact ⟨rfl, by simp⟩
    | cons hpq _ ih =>
      obtain ⟨rfl, hspec⟩ := hpq
      exact ⟨by rw [List.map_cons, ih.1], List.forall_mem_cons.mpr ⟨fits_of_spec hspec, ih.2⟩⟩
  exact ⟨hboth.1, hboth.2⟩

/-- The specs exist when each parameter has one. -/
theorem exists_specs_iff :
    (∃ all, specs context parameters = .ok all) ↔
      ∀ p ∈ parameters.entities, ∃ spec, p.spec context = .ok spec := by
  unfold specs
  rw [exists_mapM_eq_ok_iff]
  refine forall₂_congr fun p _ => ?_
  simp only [bind_eq_ok_iff]
  constructor
  · rintro ⟨q, spec, hspec, -⟩
    exact ⟨spec, hspec⟩
  · rintro ⟨spec, hspec⟩
    exact ⟨_, spec, hspec, rfl⟩

end

end Resolution

end FlowPlan
