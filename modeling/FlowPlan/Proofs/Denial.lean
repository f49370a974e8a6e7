import FlowPlan.Proofs.Check

namespace FlowPlan

/-- A refusal under a condition is the error when the condition holds, and otherwise what follows
is. -/
theorem refusal_eq_error_iff {ε α β : Type} {c : Prop} [Decidable c] {e e' : ε}
    {f : α → Except ε β} {x : Except ε β} :
    (if c then Except.error e >>= f else x) = .error e' ↔ c ∧ e = e' ∨ ¬c ∧ x = .error e' := by
  by_cases hc : c
  · have hrefused : (Except.error e >>= f : Except ε β) = .error e := rfl
    simp [hc, hrefused]
  · simp [hc]

namespace Plan

variable {plan : Plan} {e : EngineError}

theorem requireNewNode_eq_error_iff {name : String} :
    plan.requireNewNode name = .error e ↔
      name ∈ plan.nodes.map Prod.fst ∧ e = .duplicateName "node" name := by
  have hnone : plan.nodeKind? name = none ↔ name ∉ plan.nodes.map Prod.fst :=
    nodeKind?_eq_none_iff
  unfold requireNewNode
  cases hfound : plan.nodeKind? name with
  | none => simp [hnone.mp hfound]
  | some kind =>
    have hmem : name ∈ plan.nodes.map Prod.fst := by
      by_contra hnot
      rw [hnone.mpr hnot] at hfound
      cases hfound
    simp [hmem, eq_comm]

theorem requireNew_eq_error_iff {taken : List (String × String)} {kind name : String} :
    requireNew taken kind name = .error e ↔
      name ∈ taken.map (·.1) ∧ e = .duplicateName kind name := by
  unfold requireNew
  by_cases hmem : name ∈ taken.map (·.1)
  · rw [if_pos (List.contains_iff_mem.mpr hmem)]
    simp [hmem, eq_comm]
  · rw [if_neg (mt List.contains_iff_mem.mp hmem)]
    simp [hmem]

/-- A quantity is refused for one reason only: the parameter that it names is missing. -/
theorem requireQuantity_eq_error_iff {value : Quantity} :
    plan.requireQuantity value = .error e ↔
      ∃ name, value.parameter? = some name ∧ name ∉ plan.parameterNames ∧
        e = .unknownParameter name := by
  unfold requireQuantity
  cases value.parameter? with
  | none => simp
  | some name =>
    have hmem : plan.hasParameter name = true ↔ name ∈ plan.parameterNames := hasParameter_iff
    by_cases hfound : name ∈ plan.parameterNames
    · simp [hmem.mpr hfound, hfound]
    · have hnot : plan.hasParameter name = false := Bool.eq_false_iff.mpr (mt hmem.mp hfound)
      simp [hnot, hfound, eq_comm]

theorem of_missingParameter?_eq_some {spec : ComponentSpec} {missing : String}
    (h : plan.missingParameter? spec = some missing) :
    missing ∈ spec.parameterReferences ∧ missing ∉ plan.parameterNames := by
  have hnot := List.find?_some h
  rw [Bool.not_eq_true', ← Bool.not_eq_true, hasParameter_iff] at hnot
  exact ⟨List.mem_of_find?_eq_some h, hnot⟩

/-- What is wrong with a member of a group: it does not exist, or it is a group itself. -/
theorem exists_of_requireMembers_eq_error {name : String} {members : List String}
    (h : plan.requireMembers name members = .error e) :
    ∃ member ∈ members,
      plan.nodeKind? member = none ∧ e = .unknownNode member ∨
      plan.nodeKind? member = some .aggregated ∧
        e = .other ("aggregated node \"" ++ name ++ "\" cannot contain aggregated node \"" ++
          member ++ "\"") := by
  induction members with
  | nil => cases h
  | cons member rest ih =>
    rw [requireMembers, bind_eq_error_iff] at h
    rcases h with hnode | ⟨kind, hkind, h⟩
    · exact ⟨member, List.mem_cons_self, Or.inl (requireNode_eq_error_iff.mp hnode)⟩
    rcases refusal_eq_error_iff.mp h with ⟨rfl, rfl⟩ | ⟨-, hrest⟩
    · exact ⟨member, List.mem_cons_self, Or.inr ⟨requireNode_eq_ok_iff.mp hkind, rfl⟩⟩
    · obtain ⟨other, hother, hwrong⟩ := ih hrest
      exact ⟨other, List.mem_cons_of_mem _ hother, hwrong⟩

/-- A node is no end of a connection because it is missing, or because it is a group. -/
theorem requireConnectable_eq_error_iff {name : String} :
    plan.requireConnectable name = .error e ↔
      plan.nodeKind? name = none ∧ e = .unknownNode name ∨
      plan.nodeKind? name = some .aggregated ∧
        e = .other ("aggregated node \"" ++ name ++ "\" cannot be connected") := by
  unfold requireConnectable
  simp only [bind_eq_error_iff, requireNode_eq_error_iff, requireNode_eq_ok_iff]
  refine or_congr Iff.rfl ?_
  constructor
  · rintro ⟨kind, hkind, h⟩
    by_cases hagg : kind = .aggregated
    · rw [if_pos hagg] at h
      cases h
      exact ⟨hagg ▸ hkind, rfl⟩
    · rw [if_neg hagg] at h
      cases h
  · rintro ⟨hkind, rfl⟩
    exact ⟨.aggregated, hkind, rfl⟩

/-- What is wrong with a node that a recorder reads: it does not exist, or it holds no volume that
could be recorded. -/
theorem exists_of_requireRecorded_eq_error {name type : String} {nodes : List String}
    (h : plan.requireRecorded name type nodes = .error e) :
    ∃ node ∈ nodes,
      plan.nodeKind? node = none ∧ e = .unknownNode node ∨
      ∃ kind, plan.nodeKind? node = some kind ∧ type = "StorageVolume" ∧ kind ≠ .storage ∧
        e = .other ("recorder \"" ++ name ++ "\" needs a storage node but \"" ++ node ++
          "\" is a " ++ kind.phrase ++ " node") := by
  induction nodes with
  | nil => cases h
  | cons node rest ih =>
    rw [requireRecorded, bind_eq_error_iff] at h
    rcases h with hnode | ⟨kind, hkind, h⟩
    · exact ⟨node, List.mem_cons_self, Or.inl (requireNode_eq_error_iff.mp hnode)⟩
    rcases refusal_eq_error_iff.mp h with ⟨⟨htype, hstorage⟩, rfl⟩ | ⟨-, hrest⟩
    · exact ⟨node, List.mem_cons_self,
        Or.inr ⟨kind, requireNode_eq_ok_iff.mp hkind, htype, hstorage, rfl⟩⟩
    · obtain ⟨other, hother, hwrong⟩ := ih hrest
      exact ⟨other, List.mem_cons_of_mem _ hother, hwrong⟩

theorem of_check_addNode_eq_error {name : String} {kind : NodeKind} {volume : Option Float}
    (hkind : kind ≠ .aggregated) (h : plan.check (.addNode name kind volume) = .error e) :
    name ∈ plan.nodes.map Prod.fst ∧ e = .duplicateName "node" name := by
  rw [check] at h
  rcases refusal_eq_error_iff.mp h with ⟨hagg, -⟩ | ⟨-, hname⟩
  · exact absurd hagg hkind
  · exact requireNewNode_eq_error_iff.mp hname

/-- A group with as many factors as members is refused for its name or for one of its members. -/
theorem of_check_addAggregatedNode_eq_error {name : String} {members : List String}
    {factors : Option (List Float)}
    (hfactors : ∀ xs, factors = some xs → xs.length = members.length)
    (h : plan.check (.addAggregatedNode name members factors) = .error e) :
    (name ∈ plan.nodes.map Prod.fst ∧ e = .duplicateName "node" name) ∨
    ∃ member ∈ members,
      plan.nodeKind? member = none ∧ e = .unknownNode member ∨
      plan.nodeKind? member = some .aggregated ∧
        e = .other ("aggregated node \"" ++ name ++ "\" cannot contain aggregated node \"" ++
          member ++ "\"") := by
  -- name, members and factors are checked in this order, and the factors are right
  rw [check] at h
  rcases bind_eq_error_iff.mp h with hname | ⟨-, -, h⟩
  · exact Or.inl (requireNewNode_eq_error_iff.mp hname)
  rcases bind_eq_error_iff.mp h with hmembers | ⟨-, -, h⟩
  · exact Or.inr (exists_of_requireMembers_eq_error hmembers)
  · rw [requireFactors_eq_ok_iff.mpr hfactors] at h
    cases h

/-- A connection is refused for one of its ends. -/
theorem of_check_connect_eq_error {source target : String}
    (h : plan.check (.connect source target) = .error e) :
    ∃ name, (name = source ∨ name = target) ∧
      (plan.nodeKind? name = none ∧ e = .unknownNode name ∨
        plan.nodeKind? name = some .aggregated ∧
          e = .other ("aggregated node \"" ++ name ++ "\" cannot be connected")) := by
  rw [check] at h
  rcases bind_eq_error_iff.mp h with hsource | ⟨-, -, htarget⟩
  · exact ⟨source, Or.inl rfl, requireConnectable_eq_error_iff.mp hsource⟩
  · exact ⟨target, Or.inr rfl, requireConnectable_eq_error_iff.mp htarget⟩

/-- A new recorder is refused for a node that is missing or of the wrong kind, or for a parameter
that is missing. -/
theorem of_check_createRecorder_eq_error {name type : String} {spec : ComponentSpec}
    (hnew : name ∉ plan.recorders.map (·.1))
    (h : plan.check (.createRecorder name type spec) = .error e) :
    (∃ node ∈ spec.nodeReferences,
      plan.nodeKind? node = none ∧ e = .unknownNode node ∨
      ∃ kind, plan.nodeKind? node = some kind ∧ type = "StorageVolume" ∧ kind ≠ .storage ∧
        e = .other ("recorder \"" ++ name ++ "\" needs a storage node but \"" ++ node ++
          "\" is a " ++ kind.phrase ++ " node")) ∨
    ∃ missing ∈ spec.parameterReferences, missing ∉ plan.parameterNames ∧
      e = .unknownParameter missing := by
  -- the checks are of the name, of the nodes and of the parameters, in this order
  rw [check] at h
  rcases bind_eq_error_iff.mp h with hname | ⟨-, -, h⟩
  · exact absurd (requireNew_eq_error_iff.mp hname).1 hnew
  rcases bind_eq_error_iff.mp h with hnodes | ⟨-, -, h⟩
  · exact Or.inl (exists_of_requireRecorded_eq_error hnodes)
  · cases hfound : plan.missingParameter? spec with
    | none =>
      rw [hfound] at h
      cases h
    | some missing =>
      rw [hfound] at h
      cases h
      obtain ⟨hread, habsent⟩ := of_missingParameter?_eq_some hfound
      exact Or.inr ⟨missing, hread, habsent, rfl⟩

end Plan

end FlowPlan
