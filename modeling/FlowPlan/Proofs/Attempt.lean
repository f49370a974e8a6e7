import FlowPlan.Proofs.Round
import FlowPlan.Proofs.Transcript

namespace FlowPlan

namespace Resolution

open Build

/-- How a round can go: the pending parameters are offered in turn, and each of them is created or
has to wait, until one is refused for good. -/
inductive Offered : List Pending → List Exchange → Except ModelError Round → Prop
  | done : Offered [] [] (.ok { deferred := [], created := [] })
  | granted {first : Pending} {rest : List Pending} {transcript : List Exchange}
      {result : Except ModelError Round} (later : Offered rest transcript result) :
      Offered (first :: rest) (.grant first.request :: transcript)
        (result.map fun round => { round with created := first.name :: round.created })
  | deferred {first : Pending} {rest : List Pending} {transcript : List Exchange}
      {result : Except ModelError Round} {parameter missing : String}
      (later : Offered rest transcript result) :
      Offered (first :: rest)
        ({ request := first.request, answer := .error (.dependencyNotFound parameter missing) } ::
          transcript)
        (result.map fun round => { round with deferred := first :: round.deferred })
  | refused {first : Pending} {rest : List Pending} {source : EngineError}
      (final : ∀ parameter missing, source ≠ .dependencyNotFound parameter missing) :
      Offered (first :: rest) [{ request := first.request, answer := .error source }]
        (.error (.engine .parameters first.name source))

/-- How rounds can follow each other, when `sofar` is what those before came to. -/
inductive Repeated (parameters : Collection Parameter) :
    Resolution → List Pending → List Exchange → Except ModelError Resolution → Prop
  | done {sofar : Resolution} : Repeated parameters sofar [] [] (.ok sofar)
  | failed {sofar : Resolution} {pending : List Pending} {transcript : List Exchange}
      {e : ModelError} (offered : Offered pending transcript (.error e)) :
      Repeated parameters sofar pending transcript (.error e)
  | stuck {sofar : Resolution} {pending : List Pending} {transcript : List Exchange}
      {round : Round} (waiting : pending ≠ []) (offered : Offered pending transcript (.ok round))
      (nothing : pending.length ≤ round.deferred.length) :
      Repeated parameters sofar pending transcript
        (.error (diagnose parameters (round.deferred.map Pending.parameter)))
  | again {sofar : Resolution} {pending : List Pending} {xs ys : List Exchange} {round : Round}
      {result : Except ModelError Resolution} (offered : Offered pending xs (.ok round))
      (something : round.deferred.length < pending.length)
      (later : Repeated parameters
        { rounds := sofar.rounds + 1, order := sofar.order ++ round.created } round.deferred ys
        result) :
      Repeated parameters sofar pending (xs ++ ys) result

/-- How a resolution can go: it starts with all parameters pending, once their specifications have
been put together. -/
inductive Course (context : SpecContext) (parameters : Collection Parameter) :
    List Exchange → Except ModelError Resolution → Prop
  | unspecified {e : ModelError} (failed : specs context parameters = .error e) :
      Course context parameters [] (.error e)
  | rounds {all : List Pending} {transcript : List Exchange}
      {result : Except ModelError Resolution} (specified : specs context parameters = .ok all)
      (repeated : Repeated parameters { rounds := 0, order := [] } all transcript result) :
      Course context parameters transcript result

/-- One round against any engine: it offers the pending parameters one by one, as described. -/
theorem follows_offer (pending : List Pending) :
    Follows (fun _ engine => offer engine pending) (Offered pending) := by
  induction pending with
  | nil => exact Follows.of_outcome_eq (fun _ _ => rfl) .done
  | cons first rest ih =>
    refine (Follows.ask first.request).bind
      (R := fun answer transcript result =>
        Offered (first :: rest) ({ request := first.request, answer } :: transcript) result)
      (fun answer => ?_) ?_ ?_
    -- each answer is one way in which the round goes on
    · rcases answer with source | _
      · cases source with
        | dependencyNotFound parameter missing =>
          exact (ih.bind_pure fun _ _ => Offered.deferred).note_bind _ _
        | _ =>
          refine Follows.of_outcome_eq (fun _ _ => rfl) (.refused fun _ _ hsame => ?_)
          cases hsame
      · exact (ih.bind_pure fun _ _ => Offered.granted).note_bind _ _
    · rintro _ answer transcript result ⟨_, rfl, hanswer⟩ hoffered
      cases hanswer
      exact hoffered
    · rintro _ _ ⟨_, -, hanswer⟩
      cases hanswer

/-- The rounds against any engine, by induction on how many parameters are left: a round that
creates something leaves fewer of them. -/
theorem follows_runRounds (parameters : Collection Parameter) (sofar : Resolution)
    (pending : List Pending) :
    Follows (fun _ engine => runRounds engine parameters sofar pending)
      (Repeated parameters sofar pending) := by
  cases pending with
  | nil =>
    refine Follows.of_outcome_eq (fun engine state => ?_) .done
    rw [runRounds]
    rfl
  | cons first rest =>
    -- one round, and then what its outcome calls for
    have hround : (fun (σ : Type) (engine : Engine σ) =>
        runRounds engine parameters sofar (first :: rest)) = fun _ engine => (do
          let round ← offer engine (first :: rest)
          let next : Resolution :=
            { rounds := sofar.rounds + 1, order := sofar.order ++ round.created }
          Logged.note .debug ("Resolution round " ++ toString next.rounds ++ ": created " ++
            toString ((first :: rest).length - round.deferred.length) ++ ", deferred " ++
            toString round.deferred.length)
          if round.deferred.length < (first :: rest).length then
            runRounds engine parameters next round.deferred
          else throw (diagnose parameters (round.deferred.map Pending.parameter))) := by
      funext σ engine
      rw [runRounds]
    rw [hround]
    refine (follows_offer (first :: rest)).bind
      (R := fun round transcript result => ∀ xs, Offered (first :: rest) xs (.ok round) →
        Repeated parameters sofar (first :: rest) (xs ++ transcript) result)
      (fun round => Follows.note_bind _ _ ?_) ?_ ?_
    -- fewer parameters are pending in the next round, which is what the recursion goes down on
    · by_cases hfewer : round.deferred.length < (first :: rest).length
      · simp only [if_pos hfewer]
        exact (follows_runRounds parameters _ round.deferred).mono fun _ _ hlater _ hoffered =>
          .again hoffered hfewer hlater
      · simp only [if_neg hfewer]
        refine Follows.of_outcome_eq (fun _ _ => rfl) fun xs hoffered => ?_
        rw [List.append_nil]
        exact .stuck (List.cons_ne_nil _ _) hoffered (Nat.not_lt.mp hfewer)
    · intro xs round ys result hoffered hlater
      exact hlater xs hoffered
    · intro xs e hoffered
      exact .failed hoffered
termination_by pending.length
decreasing_by exact hfewer

/-- A whole resolution against any engine is a specification of each parameter, then rounds. -/
theorem follows_resolve (context : SpecContext) (parameters : Collection Parameter) :
    Follows (fun _ engine => resolve engine context parameters) (Course context parameters) := by
  have hspecs : Follows (fun _ _ => liftM (specs context parameters))
      fun transcript result => transcript = [] ∧ result = specs context parameters :=
    Follows.of_outcome_eq (fun _ state => outcome_lift _ state) ⟨rfl, rfl⟩
  refine hspecs.bind (fun all => follows_runRounds parameters _ all) ?_ ?_
  · rintro _ all transcript result ⟨rfl, hall⟩ hrepeated
    exact .rounds hall.symm hrepeated
  · rintro _ e ⟨rfl, he⟩
    exact .unspecified he.symm

namespace Offered

variable {pending : List Pending} {transcript : List Exchange}

/-- Nothing is asked for in a round but pending parameters. -/
theorem requests {result : Except ModelError Round} (h : Offered pending transcript result) :
    ∀ exchange ∈ transcript, ∃ p ∈ pending, exchange.request = p.request := by
  -- the cases only differ in what the exchange adds to the round
  have hcons {first : Pending} {rest : List Pending} {exchange : Exchange} {later : List Exchange}
      (hfirst : exchange.request = first.request)
      (hlater : ∀ exchange ∈ later, ∃ p ∈ rest, exchange.request = p.request) :
      ∀ other ∈ exchange :: later, ∃ p ∈ first :: rest, other.request = p.request := by
    refine List.forall_mem_cons.mpr ⟨⟨first, List.mem_cons_self, hfirst⟩, fun other hother => ?_⟩
    obtain ⟨p, hp, hrequest⟩ := hlater other hother
    exact ⟨p, List.mem_cons_of_mem _ hp, hrequest⟩
  induction h with
  | done => exact List.forall_mem_nil _
  | granted _ ih => exact hcons rfl ih
  | deferred _ ih => exact hcons rfl ih
  | refused _ => exact hcons rfl (List.forall_mem_nil _)

/-- A round that is not cut short creates some parameters and defers the others. -/
theorem exists_created {round : Round} (h : Offered pending transcript (.ok round)) :
    ∃ created : List Pending, (created ++ round.deferred).Perm pending ∧
      round.created = created.map Pending.name ∧
      transcript.filterMap Exchange.granted? = created.map Pending.request := by
  -- the constructors speak of any result, so that it has to be one before the induction
  generalize hresult : (Except.ok round : Except ModelError Round) = result at h
  induction h generalizing round with
  | done =>
    cases hresult
    exact ⟨[], List.Perm.refl _, rfl, rfl⟩
  | @granted first rest transcript result _ ih =>
    cases result with
    | error e => cases hresult
    | ok later =>
      cases hresult
      obtain ⟨created, hperm, hnames, hrequests⟩ := ih rfl
      exact ⟨first :: created, hperm.cons first, congrArg (first.name :: ·) hnames,
        congrArg (first.request :: ·) hrequests⟩
  | @deferred first rest transcript result _ _ _ ih =>
    cases result with
    | error e => cases hresult
    | ok later =>
      cases hresult
      obtain ⟨created, hperm, hnames, hrequests⟩ := ih rfl
      -- a deferred parameter stays behind, among those of the later exchanges
      exact ⟨created, List.perm_middle.trans (hperm.cons first), hnames, hrequests⟩
  | refused => cases hresult

end Offered

namespace Repeated

variable {parameters : Collection Parameter} {sofar : Resolution} {pending : List Pending}
  {transcript : List Exchange}

/-- Nothing is asked for in all rounds but pending parameters. -/
theorem requests {result : Except ModelError Resolution}
    (h : Repeated parameters sofar pending transcript result) :
    ∀ exchange ∈ transcript, ∃ p ∈ pending, exchange.request = p.request := by
  induction h with
  | done => exact List.forall_mem_nil _
  | failed offered => exact offered.requests
  | stuck _ offered _ => exact offered.requests
  | again offered _ _ ih =>
    refine List.forall_mem_append.mpr ⟨offered.requests, fun exchange hexchange => ?_⟩
    -- what is pending in later rounds is so in this one
    obtain ⟨created, hperm, -⟩ := offered.exists_created
    obtain ⟨p, hp, hrequest⟩ := ih exchange hexchange
    exact ⟨p, hperm.subset (List.mem_append_right _ hp), hrequest⟩

/-- Rounds that come to an end have created all that was pending, each parameter once. -/
theorem exists_created {resolution : Resolution}
    (h : Repeated parameters sofar pending transcript (.ok resolution)) :
    ∃ created : List Pending, created.Perm pending ∧
      resolution.order = sofar.order ++ created.map Pending.name ∧
      transcript.filterMap Exchange.granted? = created.map Pending.request := by
  -- only a round with progress leads on, and what it defers is offered again
  generalize hresult : (Except.ok resolution : Except ModelError Resolution) = result at h
  induction h with
  | done =>
    cases hresult
    exact ⟨[], List.Perm.refl _, (List.append_nil _).symm, rfl⟩
  | failed => cases hresult
  | stuck => cases hresult
  | @again sofar pending xs ys round result offered _ _ ih =>
    obtain ⟨first, hfirst, hnames, hrequests⟩ := offered.exists_created
    obtain ⟨later, hlater, horder, hrequests'⟩ := ih hresult
    refine ⟨first ++ later, (hlater.append_left first).trans hfirst, ?_, ?_⟩
    · rw [horder, hnames, List.map_append, List.append_assoc]
    · rw [List.filterMap_append, hrequests, hrequests', List.map_append]

end Repeated

namespace Course

variable {context : SpecContext} {parameters : Collection Parameter}
  {transcript : List Exchange}

/-- A resolution asks for nothing but parameters of its collection, as they are specified. -/
theorem requests {result : Except ModelError Resolution}
    (h : Course context parameters transcript result) :
    ∀ exchange ∈ transcript, ∃ all, specs context parameters = .ok all ∧
      ∃ p ∈ all, exchange.request = p.request := by
  cases h with
  | unspecified _ => exact List.forall_mem_nil _
  | rounds specified repeated =>
    exact fun exchange hmem => ⟨_, specified, repeated.requests exchange hmem⟩

theorem exists_created {resolution : Resolution}
    (h : Course context parameters transcript (.ok resolution)) :
    ∃ all created : List Pending, specs context parameters = .ok all ∧ created.Perm all ∧
      resolution.order = created.map Pending.name ∧
      transcript.filterMap Exchange.granted? = created.map Pending.request := by
  cases h with
  | rounds specified repeated =>
    obtain ⟨created, hperm, horder, hrequests⟩ := repeated.exists_created
    exact ⟨_, created, specified, hperm, horder, hrequests⟩

end Course

end Resolution

end FlowPlan
