import FlowPlan.Proofs.Admission
import FlowPlan.Proofs.Check
import FlowPlan.Proofs.Mention
import FlowPlan.Proofs.Outcome
import Mathlib.Data.List.Nodup

namespace FlowPlan

def Parameter.Ready (created : List String) (p : Parameter) : Prop :=
  ∀ name ∈ p.parameterReferences, name ∈ created

instance (created : List String) (p : Parameter) : Decidable (p.Ready created) :=
  inferInstanceAs (Decidable (∀ name ∈ p.parameterReferences, name ∈ created))

/-- What is ready stays ready as more is created. -/
theorem Parameter.Ready.mono {few many : List String} {p : Parameter} (h : p.Ready few)
    (hsub : few ⊆ many) : p.Ready many :=
  fun name hname => hsub (h name hname)

/-- Whether the storage node of a parameter exists, if it has one. -/
def Plan.Knows (plan : Plan) (p : Parameter) : Prop :=
  ∀ node, p.Stores node → plan.nodeKind? node ≠ none

theorem Plan.knows_iff {plan : Plan} {p : Parameter} :
    plan.Knows p ↔ ∀ node ∈ p.nodeReferences, plan.nodeKind? node ≠ none := by
  unfold Knows
  simp only [Parameter.stores_iff]

namespace Resolution

namespace Pending

def name (pending : Pending) : String :=
  pending.parameter.name

/-- Whether the engine is told what the parameter reads. -/
structure Fits (pending : Pending) : Prop where
  parameters : pending.spec.parameterReferences = pending.parameter.parameterReferences
  nodes : pending.spec.nodeReferences = pending.parameter.nodeReferences

end Pending

/-- The pending parameters that a round creates, when those in `created` exist at its start. -/
def accepted (created : List String) : List Pending → List Pending
  | [] => []
  | pending :: rest =>
    if pending.parameter.Ready created then pending :: accepted (created ++ [pending.name]) rest
    else accepted created rest

/-- The pending parameters that wait for the next round. -/
def refused (created : List String) : List Pending → List Pending
  | [] => []
  | pending :: rest =>
    if pending.parameter.Ready created then refused (created ++ [pending.name]) rest
    else pending :: refused created rest

theorem accepted_cons_of_ready {created : List String} {first : Pending} (rest : List Pending)
    (h : first.parameter.Ready created) :
    accepted created (first :: rest) = first :: accepted (created ++ [first.name]) rest ∧
      refused created (first :: rest) = refused (created ++ [first.name]) rest := by
  rw [accepted, refused, if_pos h, if_pos h]
  exact ⟨rfl, rfl⟩

theorem accepted_cons_of_not_ready {created : List String} {first : Pending}
    (rest : List Pending) (h : ¬first.parameter.Ready created) :
    accepted created (first :: rest) = accepted created rest ∧
      refused created (first :: rest) = first :: refused created rest := by
  rw [accepted, refused, if_neg h, if_neg h]
  exact ⟨rfl, rfl⟩

/-- A round loses no parameter and creates none twice. -/
theorem accepted_append_refused_perm (created : List String) (pending : List Pending) :
    (accepted created pending ++ refused created pending).Perm pending := by
  induction pending generalizing created with
  | nil => exact List.Perm.refl _
  | cons first rest ih =>
    by_cases h : first.parameter.Ready created
    · obtain ⟨ha, hr⟩ := accepted_cons_of_ready rest h
      rw [ha, hr, List.cons_append]
      exact (ih _).cons first
    · obtain ⟨ha, hr⟩ := accepted_cons_of_not_ready rest h
      rw [ha, hr]
      exact List.perm_middle.trans ((ih _).cons first)

/-- What a round refuses keeps its order. -/
theorem refused_sublist (created : List String) (pending : List Pending) :
    (refused created pending).Sublist pending := by
  induction pending generalizing created with
  | nil => exact List.Sublist.refl _
  | cons first rest ih =>
    rw [refused]
    split
    · exact (ih _).cons first
    · exact (ih _).cons_cons first

theorem length_accepted_add_length_refused (created : List String) (pending : List Pending) :
    (accepted created pending).length + (refused created pending).length = pending.length := by
  rw [← List.length_append]
  exact (accepted_append_refused_perm created pending).length_eq

/-- Each created parameter reads only what existed before it. -/
theorem ready_of_accepted {created : List String} {pending before after : List Pending}
    {p : Pending} (h : accepted created pending = before ++ p :: after) :
    p.parameter.Ready (created ++ before.map Pending.name) := by
  induction pending generalizing created before with
  | nil => simp [accepted] at h
  | cons first rest ih =>
    by_cases hready : first.parameter.Ready created
    · rw [(accepted_cons_of_ready rest hready).1] at h
      -- either `p` is the first of all, or it comes after it in the same round
      cases before with
      | nil =>
        obtain ⟨rfl, -⟩ := List.cons_eq_cons.mp h
        exact hready.mono (List.subset_append_left _ _)
      | cons head before =>
        obtain ⟨rfl, hrest⟩ := List.cons_eq_cons.mp h
        simpa using ih hrest
    · rw [(accepted_cons_of_not_ready rest hready).1] at h
      exact ih h

/-- What is refused was not ready for what had been created when its turn came. -/
theorem not_ready_of_refused {created : List String} {pending : List Pending} {p : Pending}
    (hp : p ∈ refused created pending) : ¬p.parameter.Ready created := by
  induction pending generalizing created with
  | nil => simp [refused] at hp
  | cons first rest ih =>
    by_cases hready : first.parameter.Ready created
    · rw [(accepted_cons_of_ready rest hready).2] at hp
      exact fun h => ih hp (h.mono (List.subset_append_left _ _))
    · rw [(accepted_cons_of_not_ready rest hready).2] at hp
      rcases List.mem_cons.mp hp with rfl | hp
      · exact hready
      · exact ih hp

/-- A test that tells of each pending parameter whether its turn comes in this round splits the
list as the round does. -/
theorem accepted_eq_filter {created : List String} {pending : List Pending} (now : Pending → Bool)
    (hnow : ∀ before p after, pending = before ++ p :: after →
      (p.parameter.Ready (created ++ (before.filter now).map Pending.name) ↔ now p = true)) :
    accepted created pending = pending.filter now ∧
      refused created pending = pending.filter fun p => !now p := by
  -- by induction on what is pending: each name that is accepted is there for the rest
  induction pending generalizing created with
  | nil => exact ⟨rfl, rfl⟩
  | cons first rest ih =>
    have hfirst : first.parameter.Ready created ↔ now first = true := by
      simpa using hnow [] first rest rfl
    have hlater : ∀ before p after, rest = before ++ p :: after →
        (p.parameter.Ready (created ++ ((first :: before).filter now).map Pending.name) ↔
          now p = true) := by
      intro before p after hsplit
      exact hnow (first :: before) p after (by rw [hsplit, List.cons_append])
    by_cases h : now first = true
    · have hrest := @ih (created ++ [first.name]) (by simpa [h] using hlater)
      obtain ⟨ha, hr⟩ := accepted_cons_of_ready rest (hfirst.mpr h)
      rw [ha, hr, hrest.1, hrest.2]
      simp [h]
    · have hrest := @ih created (by simpa [h] using hlater)
      obtain ⟨ha, hr⟩ := accepted_cons_of_not_ready rest (mt hfirst.mp h)
      rw [ha, hr, hrest.1, hrest.2]
      simp [h]

section

variable {σ : Type} {engine : Engine σ}

/-- An engine that grants the first request goes on with the rest of the round. -/
theorem outcome_offer_of_granted {first : Pending} {rest : List Pending} {state next : σ}
    (h : engine.answer first.request state = (.ok (), next)) :
    Build.outcome (offer engine (first :: rest)) state =
      match Build.outcome (offer engine rest) next with
      | (.ok round, final) => (.ok { round with created := first.name :: round.created }, final)
      | (.error e, final) => (.error e, final) := by
  rw [offer, Build.outcome_bind_of_ok (Build.outcome_ask _ _ _), h, Build.outcome_note_bind,
    Build.outcome_bind]
  rcases Build.outcome (offer engine rest) next with ⟨_ | round, final⟩
  · rfl
  · rfl

/-- A parameter that misses another one is set aside for the next round. -/
theorem outcome_offer_of_deferred {first : Pending} {rest : List Pending} {state next : σ}
    {name missing : String}
    (h : engine.answer first.request state = (.error (.dependencyNotFound name missing), next)) :
    Build.outcome (offer engine (first :: rest)) state =
      match Build.outcome (offer engine rest) next with
      | (.ok round, final) => (.ok { round with deferred := first :: round.deferred }, final)
      | (.error e, final) => (.error e, final) := by
  rw [offer, Build.outcome_bind_of_ok (Build.outcome_ask _ _ _), h]
  dsimp only
  rw [Build.outcome_note_bind, Build.outcome_bind]
  rcases Build.outcome (offer engine rest) next with ⟨_ | round, final⟩
  · rfl
  · rfl

/-- Any other refusal ends the round. -/
theorem outcome_offer_of_refused {first : Pending} {rest : List Pending} {state next : σ}
    {source : EngineError} (hsource : ∀ name missing, source ≠ .dependencyNotFound name missing)
    (h : engine.answer first.request state = (.error source, next)) :
    Build.outcome (offer engine (first :: rest)) state =
      (.error (.engine .parameters first.name source), next) := by
  rw [offer, Build.outcome_bind_of_ok (Build.outcome_ask _ _ _), h]
  cases source with
  | dependencyNotFound name missing => exact absurd rfl (hsource name missing)
  | _ => rfl

end

section

variable {plan : Plan} {pending : Pending}

@[simp] theorem parameterNames_add_request :
    (plan.add pending.request).parameterNames = plan.parameterNames ++ [pending.name] :=
  List.map_append

/-- A parameter that is ready, and whose nodes the plan knows, is created. -/
theorem answer_of_ready_of_knows (hfits : pending.Fits)
    (hfresh : pending.name ∉ plan.parameterNames)
    (hready : pending.parameter.Ready plan.parameterNames) (hknows : plan.Knows pending.parameter) :
    Plan.engine.answer pending.request plan = (.ok (), plan.add pending.request) := by
  have hcheck : plan.check pending.request = .ok () := by
    refine Plan.check_createParameter_iff.mpr ⟨hfresh, ?_, ?_⟩
    · rw [hfits.parameters]
      exact hready
    · rw [hfits.nodes]
      exact Plan.knows_iff.mp hknows
  change plan.answer pending.request = _
  rw [Plan.answer, hcheck]

/-- A parameter that is ready is refused for good if the plan does not know one of its nodes. -/
theorem answer_of_ready_of_not_knows (hfits : pending.Fits)
    (hfresh : pending.name ∉ plan.parameterNames)
    (hready : pending.parameter.Ready plan.parameterNames)
    (hknows : ¬plan.Knows pending.parameter) :
    ∃ node ∈ pending.parameter.nodeReferences, plan.nodeKind? node = none ∧
      Plan.engine.answer pending.request plan = (.error (.unknownNode node), plan) := by
  rw [Plan.knows_iff] at hknows
  push Not at hknows
  rw [← hfits.nodes] at hknows ⊢
  obtain ⟨node, hnode, hnone, hcheck⟩ := Plan.check_createParameter_of_unknown
    pending.parameter.typeName hfresh (by rw [hfits.parameters]; exact hready) hknows
  refine ⟨node, hnode, hnone, ?_⟩
  change plan.answer pending.request = _
  rw [Plan.answer]
  change plan.check pending.request = _ at hcheck
  rw [hcheck]

/-- A parameter that is not ready is refused for one that it misses, whatever its nodes are. -/
theorem answer_of_not_ready (hfits : pending.Fits) (hfresh : pending.name ∉ plan.parameterNames)
    (hready : ¬pending.parameter.Ready plan.parameterNames) :
    ∃ missing, Plan.engine.answer pending.request plan =
      (.error (.dependencyNotFound pending.name missing), plan) := by
  unfold Parameter.Ready at hready
  push Not at hready
  rw [← hfits.parameters] at hready
  -- parameters are checked before nodes, so the answer is about one of them
  obtain ⟨missing, hcheck⟩ := Plan.check_createParameter_of_missing
    pending.parameter.typeName hfresh hready
  refine ⟨missing, ?_⟩
  change plan.answer pending.request = _
  rw [Plan.answer]
  change plan.check pending.request = _ at hcheck
  rw [hcheck]

end

/-- A round against a plan creates what is ready, unless one of these reads an unknown node: then
the first that does is the end of it. -/
theorem outcome_offer {plan : Plan} {pending : List Pending} (hfits : ∀ p ∈ pending, p.Fits)
    (hnodup : (pending.map Pending.name).Nodup)
    (hfresh : ∀ p ∈ pending, p.name ∉ plan.parameterNames) :
    ((∀ p ∈ accepted plan.parameterNames pending, plan.Knows p.parameter) ∧
      Build.outcome (offer Plan.engine pending) plan =
        (.ok
          { deferred := refused plan.parameterNames pending
            created := (accepted plan.parameterNames pending).map Pending.name },
          plan.addAll ((accepted plan.parameterNames pending).map Pending.request))) ∨
    ∃ before p after node, accepted plan.parameterNames pending = before ++ p :: after ∧
      node ∈ p.parameter.nodeReferences ∧ plan.nodeKind? node = none ∧
      Build.outcome (offer Plan.engine pending) plan =
        (.error (.engine .parameters p.name (.unknownNode node)),
          plan.addAll (before.map Pending.request)) := by
  induction pending generalizing plan with
  | nil => exact Or.inl ⟨by simp [accepted], rfl⟩
  | cons first rest ih =>
    obtain ⟨hfirst, hnodup⟩ := List.nodup_cons.mp hnodup
    have hfits' : ∀ p ∈ rest, p.Fits := fun p hp => hfits p (List.mem_cons_of_mem _ hp)
    have hfresh' : ∀ p ∈ rest, p.name ∉ plan.parameterNames :=
      fun p hp => hfresh p (List.mem_cons_of_mem _ hp)
    have hfit := hfits first List.mem_cons_self
    have hnew := hfresh first List.mem_cons_self
    -- a ready parameter is created if its nodes are known, any other waits for the next round
    by_cases hready : first.parameter.Ready plan.parameterNames
    · obtain ⟨ha, hr⟩ := accepted_cons_of_ready rest hready
      rw [ha, hr]
      by_cases hknows : plan.Knows first.parameter
      · have hgranted := answer_of_ready_of_knows hfit hnew hready hknows
        have hfresh'' : ∀ p ∈ rest, p.name ∉ (plan.add first.request).parameterNames := by
          intro p hp hmem
          rw [parameterNames_add_request, List.mem_append, List.mem_singleton] at hmem
          rcases hmem with hmem | hmem
          · exact hfresh' p hp hmem
          · exact hfirst (hmem ▸ List.mem_map_of_mem hp)
        have hih := ih hfits' hnodup hfresh''
        rw [parameterNames_add_request] at hih
        rcases hih with ⟨hall, hout⟩ | ⟨before, p, after, node, hsplit, hnode, hnone, hout⟩
        · refine Or.inl ⟨List.forall_mem_cons.mpr ⟨hknows, hall⟩, ?_⟩
          rw [outcome_offer_of_granted hgranted, hout]
          rfl
        · refine Or.inr ⟨first :: before, p, after, node, by rw [hsplit]; rfl, hnode, hnone, ?_⟩
          rw [outcome_offer_of_granted hgranted, hout]
          rfl
      · obtain ⟨node, hnode, hnone, hrefused⟩ :=
          answer_of_ready_of_not_knows hfit hnew hready hknows
        refine Or.inr ⟨[], first, _, node, rfl, hnode, hnone, ?_⟩
        exact outcome_offer_of_refused (fun _ _ h => by cases h) hrefused
    · obtain ⟨ha, hr⟩ := accepted_cons_of_not_ready rest hready
      rw [ha, hr]
      -- the plan stays as it is, so what is said of the rest holds as it stands
      obtain ⟨missing, hdeferred⟩ := answer_of_not_ready hfit hnew hready
      rcases ih hfits' hnodup hfresh' with
        ⟨hall, hout⟩ | ⟨before, p, after, node, hsplit, hnode, hnone, hout⟩
      · refine Or.inl ⟨hall, ?_⟩
        rw [outcome_offer_of_deferred hdeferred, hout]
      · refine Or.inr ⟨before, p, after, node, hsplit, hnode, hnone, ?_⟩
        rw [outcome_offer_of_deferred hdeferred, hout]

end Resolution

end FlowPlan
