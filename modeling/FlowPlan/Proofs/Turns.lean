import FlowPlan.Proofs.Diagnosis
import FlowPlan.Proofs.Protocol

/-! In which turns parameters are offered to an engine, whatever it answers: each round offers those
that are left, in the order of the collection, until none is left, a round creates none of them, or
one of them is refused for good. -/

namespace FlowPlan

namespace Resolution

open Build

def createdNames (transcript : List Exchange) : List String :=
  ((transcript.filterMap Exchange.granted?).filterMap Request.parameter?).map Prod.fst

@[simp] theorem createdNames_nil : createdNames [] = [] := rfl

theorem createdNames_append (xs ys : List Exchange) :
    createdNames (xs ++ ys) = createdNames xs ++ createdNames ys := by
  unfold createdNames
  rw [List.filterMap_append, List.filterMap_append, List.map_append]

theorem createdNames_of_granted {transcript : List Exchange} {created : List Pending}
    (h : transcript.filterMap Exchange.granted? = created.map Pending.request) :
    createdNames transcript = created.map Pending.name := by
  unfold createdNames
  rw [h, List.filterMap_map, List.map_filterMap, ← List.filterMap_eq_map]
  rfl

/-- A parameter whose creation was answered is among the created. -/
theorem mem_createdNames {transcript : List Exchange} {exchange : Exchange} {pending : Pending}
    (hmem : exchange ∈ transcript) (hrequest : exchange.request = pending.request)
    (hanswer : exchange.answer = .ok ()) : pending.name ∈ createdNames transcript := by
  have hgranted : exchange.granted? = some pending.request := by
    rw [Exchange.granted?, hanswer, hrequest]
  refine List.mem_map.mpr ⟨(pending.name, pending.parameter.typeName), ?_, rfl⟩
  exact List.mem_filterMap.mpr ⟨_, List.mem_filterMap.mpr ⟨exchange, hmem, hgranted⟩, rfl⟩

/-- The pending parameters that a transcript has not created. -/
def remaining (pending : List Pending) (past : List Exchange) : List Pending :=
  pending.filter fun p => p.name ∉ createdNames past

theorem remaining_nil (pending : List Pending) : remaining pending [] = pending :=
  List.filter_eq_self.mpr fun _ _ => decide_eq_true List.not_mem_nil

/-- What remains after two transcripts remains of what the first one left. -/
theorem remaining_append (pending : List Pending) (xs ys : List Exchange) :
    remaining pending (xs ++ ys) = remaining (remaining pending xs) ys := by
  unfold remaining
  rw [List.filter_filter, createdNames_append]
  refine List.filter_congr fun p _ => ?_
  simp only [List.mem_append, not_or, Bool.decide_and, Bool.and_comm]

/-- Whether a round offers all of some parameters, none of which is refused for good. -/
structure Complete (offered : List Pending) (round : List Exchange) : Prop where
  requests : round.map Exchange.request = offered.map Pending.request
  passed : ∀ exchange ∈ round, exchange.Passed

/-- Whether a round offers some parameters until one of them is refused for good, which ends the
resolution. -/
inductive CutShort (offered : List Pending) : List Exchange → Except ModelError Resolution → Prop
  | intro {before : List Exchange} {p : Pending} {source : EngineError}
      (requests : before.map Exchange.request ++ [p.request] <+: offered.map Pending.request)
      (passed : ∀ exchange ∈ before, exchange.Passed)
      (final : ∀ parameter missing, source ≠ .dependencyNotFound parameter missing) :
      CutShort offered (before ++ [{ request := p.request, answer := .error source }])
        (.error (.engine .parameters p.name source))

namespace Offered

variable {pending : List Pending} {transcript : List Exchange}

/-- A round that is not cut short offers all that is pending. -/
theorem complete {round : Round} (h : Offered pending transcript (.ok round)) :
    Complete pending transcript where
  requests := by
    generalize hresult : (Except.ok round : Except ModelError Round) = result at h
    induction h generalizing round with
    | done => rfl
    | @granted first rest transcript result _ ih =>
      cases result with
      | error e => cases hresult
      | ok later => exact congrArg (first.request :: ·) (ih rfl)
    | @deferred first rest transcript result _ _ _ ih =>
      cases result with
      | error e => cases hresult
      | ok later => exact congrArg (first.request :: ·) (ih rfl)
    | refused => cases hresult
  passed := h.halts.of_ok

theorem length_eq {round : Round} (h : Offered pending transcript (.ok round)) :
    transcript.length = pending.length := by
  have hlength := congrArg List.length h.complete.requests
  rwa [List.length_map, List.length_map] at hlength

end Offered

/-- What can be said of the rounds in which some pending parameters are offered to an engine, after
`past` rounds for others. -/
structure Turns (past : ℕ) (pending : List Pending) (rounds : List (List Exchange))
    (result : Except ModelError Resolution) : Prop where
  few_rounds : rounds.length ≤ pending.length
  -- each round but the last creates a parameter, so each is shorter than the one before
  few_requests : rounds.flatten.length ≤ pending.length * (pending.length + 1) / 2
  /-- A round offers what the rounds before it have not created. -/
  offers : ∀ earlier round later, rounds = earlier ++ round :: later →
    Complete (remaining pending earlier.flatten) round ∨
      later = [] ∧ CutShort (remaining pending earlier.flatten) round result
  /-- What is created is not offered again. -/
  once : rounds.flatten.Pairwise fun earlier later =>
    earlier.answer = .ok () → later.request.declared ≠ earlier.request.declared
  counted : ∀ resolution, result = .ok resolution → resolution.rounds = past + rounds.length
  /-- What cannot be created has been put off in a last round that puts off everything. -/
  stuck : ∀ e names, result = .error e → e.unresolved? = some names →
    ∃ earlier last, rounds = earlier ++ [last] ∧ last ≠ [] ∧
      ∀ exchange ∈ last, exchange.Deferred

/-- A round offers nothing twice. -/
theorem pairwise_declared {pending : List Pending} (hnodup : (pending.map Pending.name).Nodup)
    {round : List Exchange}
    (hrequests : round.map Exchange.request <+: pending.map Pending.request) :
    round.Pairwise fun earlier later =>
      earlier.answer = .ok () → later.request.declared ≠ earlier.request.declared := by
  have hnames : (pending.map Pending.request).map Request.declared = pending.map Pending.name := by
    rw [List.map_map]
    rfl
  -- a round takes its requests from what is pending, where each name stands once
  have hround : ((round.map Exchange.request).map Request.declared).Nodup := by
    apply List.Nodup.sublist (hrequests.sublist.map Request.declared)
    rw [hnames]
    exact hnodup
  rw [List.map_map] at hround
  exact (List.pairwise_map.mp hround).imp fun hne _ => hne.symm

theorem CutShort.prefix_requests {offered : List Pending} {round : List Exchange}
    {result : Except ModelError Resolution} (h : CutShort offered round result) :
    round.map Exchange.request <+: offered.map Pending.request := by
  cases h with
  | intro requests => rwa [List.map_append, List.map_singleton]

/-- A round for each of fewer and fewer parameters costs no more than the triangle over them. -/
theorem add_le_triangle {first rest many few : ℕ} (hfirst : first ≤ many) (hfewer : few < many)
    (hrest : rest ≤ few * (few + 1) / 2) : first + rest ≤ many * (many + 1) / 2 := by
  have hdouble : rest * 2 ≤ few * (few + 1) := (Nat.le_div_iff_mul_le (by omega)).mp hrest
  have hless : few * many + many ≤ many * many := by
    rw [← Nat.succ_mul]
    exact Nat.mul_le_mul_right many hfewer
  rw [Nat.le_div_iff_mul_le (by omega)]
  calc (first + rest) * 2 = first * 2 + rest * 2 := Nat.add_mul first rest 2
    _ ≤ many * 2 + few * (few + 1) := Nat.add_le_add (Nat.mul_le_mul_right 2 hfirst) hdouble
    _ ≤ many * 2 + few * many := Nat.add_le_add_left (Nat.mul_le_mul_left few hfewer) _
    _ ≤ many * many + many := by omega
    _ = many * (many + 1) := (Nat.mul_succ many many).symm

namespace Turns

variable {past : ℕ} {pending : List Pending} {round : List Exchange}
  {rounds : List (List Exchange)} {result : Except ModelError Resolution}

/-- Nothing has to be offered for parameters of which there are none. -/
theorem nothing (hresult : ∀ resolution, result = .ok resolution → resolution.rounds = past)
    (hgood : ∀ e names, result = .error e → e.unresolved? ≠ some names) :
    Turns past [] [] result where
  few_rounds := Nat.le_refl 0
  few_requests := Nat.le_refl 0
  offers := by
    intro earlier round later hsplit
    have hmem : round ∈ ([] : List (List Exchange)) := by simp [hsplit]
    exact absurd hmem List.not_mem_nil
  once := List.Pairwise.nil
  counted := hresult
  stuck := fun e names hresult hstuck => absurd hstuck (hgood e names hresult)

/-- A round with which the resolution ends. -/
theorem last {e : ModelError} (hnodup : (pending.map Pending.name).Nodup)
    (hwaiting : pending ≠ [])
    (hround : Complete pending round ∨ CutShort pending round (.error e))
    (hstuck : ∀ names, e.unresolved? = some names →
      round ≠ [] ∧ ∀ exchange ∈ round, exchange.Deferred) :
    Turns past pending [round] (.error e) := by
  have hpositive : 0 < pending.length := List.length_pos_of_ne_nil hwaiting
  -- a round asks for what is pending, in its order, as far as it goes
  have hrequests : round.map Exchange.request <+: pending.map Pending.request := by
    rcases hround with hcomplete | hcut
    · rw [hcomplete.requests]
    · exact hcut.prefix_requests
  exact {
    few_rounds := hpositive
    few_requests := by
      have hlength := hrequests.length_le
      rw [List.length_map, List.length_map] at hlength
      have htriangle := add_le_triangle hlength hpositive (Nat.zero_le (0 * (0 + 1) / 2))
      rwa [List.flatten_singleton]
    offers := by
      intro earlier other later hsplit
      obtain ⟨rfl, rfl, rfl⟩ : earlier = [] ∧ other = round ∧ later = [] := by
        cases earlier with
        | nil =>
          obtain ⟨hsame, hnone⟩ := List.cons_eq_cons.mp hsplit
          exact ⟨rfl, hsame.symm, hnone.symm⟩
        | cons first earlier => simp at hsplit
      rw [List.flatten_nil, remaining_nil]
      exact hround.imp_right fun hcut => ⟨rfl, hcut⟩
    once := by
      rw [List.flatten_singleton]
      exact pairwise_declared hnodup hrequests
    counted := fun resolution hresult => by cases hresult
    stuck := by
      intro e' names hresult hnames
      cases hresult
      exact ⟨[], round, rfl, hstuck names hnames⟩ }

/-- A round that creates something, before those for what it has not created. -/
theorem cons (hnodup : (pending.map Pending.name).Nodup) (hround : Complete pending round)
    (hfewer : (remaining pending round).length < pending.length)
    (hrequests : ∀ exchange ∈ rounds.flatten,
      ∃ p ∈ remaining pending round, exchange.request = p.request)
    (h : Turns (past + 1) (remaining pending round) rounds result) :
    Turns past pending (round :: rounds) result where
  few_rounds := by
    have hlater := h.few_rounds
    rw [List.length_cons]
    omega
  few_requests := by
    have hlength := congrArg List.length hround.requests
    rw [List.length_map, List.length_map] at hlength
    rw [List.flatten_cons, List.length_append]
    exact add_le_triangle hlength.le hfewer h.few_requests
  offers := by
    intro earlier other later hsplit
    cases earlier with
    | nil =>
      obtain ⟨rfl, rfl⟩ := List.cons_eq_cons.mp hsplit
      rw [List.flatten_nil, remaining_nil]
      exact Or.inl hround
    | cons first earlier =>
      obtain ⟨rfl, hrest⟩ := List.cons_eq_cons.mp hsplit
      rw [List.flatten_cons, remaining_append]
      exact h.offers earlier other later hrest
  once := by
    rw [List.flatten_cons, List.pairwise_append]
    have hfirst : round.map Exchange.request <+: pending.map Pending.request := by
      rw [hround.requests]
    refine ⟨pairwise_declared hnodup hfirst, h.once, fun earlier hearlier later hlater => ?_⟩
    -- what is offered later is not created in this round
    obtain ⟨p, hp, hrequest⟩ := hrequests later hlater
    have hnot : p.name ∉ createdNames round := of_decide_eq_true (List.mem_filter.mp hp).2
    obtain ⟨q, -, hq⟩ := List.mem_map.mp (hfirst.subset (List.mem_map_of_mem hearlier))
    rw [hrequest, ← hq]
    change earlier.answer = .ok () → p.name ≠ q.name
    intro hgranted hsame
    exact hnot (hsame ▸ mem_createdNames hearlier hq.symm hgranted)
  counted := by
    intro resolution hresult
    have hlater := h.counted resolution hresult
    rw [List.length_cons]
    omega
  stuck := by
    intro e names hresult hnames
    obtain ⟨earlier, last, hrounds, hlast⟩ := h.stuck e names hresult hnames
    exact ⟨round :: earlier, last, by rw [hrounds, List.cons_append], hlast⟩

end Turns

namespace Course

variable {context : SpecContext} {parameters : Collection Parameter}
  {transcript : List Exchange}

/-- A resolution that succeeds reports what has been created, which is everything. -/
theorem order_eq {resolution : Resolution}
    (h : Course context parameters transcript (.ok resolution)) :
    resolution.order = createdNames transcript ∧ resolution.order.Perm parameters.names := by
  obtain ⟨all, created, hspecs, hperm, horder, hgranted⟩ := h.exists_created
  refine ⟨horder.trans (createdNames_of_granted hgranted).symm, ?_⟩
  rw [horder, ← (prepared_of_specs hspecs).names_eq]
  exact hperm.map Pending.name

end Course

end Resolution

end FlowPlan
