import FlowPlan.Engine.Plan
import FlowPlan.Proofs.Lookup
import FlowPlan.Proofs.Result

namespace FlowPlan

namespace Plan

variable {plan : Plan}

theorem hasParameter_iff {name : String} :
    plan.hasParameter name = true ↔ name ∈ plan.parameterNames := by
  unfold hasParameter parameterNames
  rw [List.contains_iff_mem]

theorem nodeKind?_eq_none_iff {name : String} :
    plan.nodeKind? name = none ↔ name ∉ plan.nodes.map Prod.fst :=
  lookup_eq_none_iff_not_mem

theorem requireNode_eq_ok_iff {name : String} {kind : NodeKind} :
    plan.requireNode name = .ok kind ↔ plan.nodeKind? name = some kind := by
  unfold requireNode
  cases plan.nodeKind? name with
  | none => simp
  | some found => simp

theorem requireNode_eq_error_iff {name : String} {e : EngineError} :
    plan.requireNode name = .error e ↔ plan.nodeKind? name = none ∧ e = .unknownNode name := by
  unfold requireNode
  cases plan.nodeKind? name with
  | none => simp [eq_comm]
  | some found => simp

theorem requireNewNode_eq_ok_iff {name : String} :
    plan.requireNewNode name = .ok () ↔ plan.nodeKind? name = none := by
  unfold requireNewNode
  cases plan.nodeKind? name with
  | none => simp
  | some found => simp

theorem requireNew_eq_ok_iff {taken : List (String × String)} {kind name : String} :
    requireNew taken kind name = .ok () ↔ name ∉ taken.map (·.1) := by
  unfold requireNew
  split
  · rename_i h
    simp [List.contains_iff_mem.mp h]
  · rename_i h
    simpa using h

theorem requireQuantity_eq_ok_iff {value : Quantity} :
    plan.requireQuantity value = .ok () ↔
      ∀ name, value.parameter? = some name → name ∈ plan.parameterNames := by
  unfold requireQuantity
  cases value.parameter? with
  | none => simp
  | some name =>
    have hmem : plan.hasParameter name = true ↔ name ∈ plan.parameterNames := hasParameter_iff
    cases hfound : plan.hasParameter name with
    | false => simp_all
    | true => simp_all

theorem missingParameter?_eq_none_iff {spec : ComponentSpec} :
    plan.missingParameter? spec = none ↔
      ∀ name ∈ spec.parameterReferences, name ∈ plan.parameterNames := by
  unfold missingParameter?
  rw [List.find?_eq_none]
  simp only [Bool.not_eq_true', Bool.not_eq_false, hasParameter_iff]

/-- The members of a group pass when each is a node, and none is a group. -/
theorem requireMembers_eq_ok_iff {name : String} {members : List String} :
    plan.requireMembers name members = .ok () ↔
      ∀ member ∈ members, ∃ kind, plan.nodeKind? member = some kind ∧ kind ≠ .aggregated := by
  induction members with
  | nil => simp [requireMembers]
  | cons member rest ih =>
    rw [requireMembers, bind_eq_ok_iff, List.forall_mem_cons, ← ih]
    simp only [requireNode_eq_ok_iff, refusal_eq_ok_iff]
    constructor
    · rintro ⟨kind, hkind, hagg, hrest⟩
      exact ⟨⟨kind, hkind, hagg⟩, hrest⟩
    · rintro ⟨⟨kind, hkind, hagg⟩, hrest⟩
      exact ⟨kind, hkind, hagg, hrest⟩

theorem requireFactors_eq_ok_iff {name : String} {members : List String}
    {factors : Option (List Float)} :
    requireFactors name members factors = .ok () ↔
      ∀ xs, factors = some xs → xs.length = members.length := by
  cases factors with
  | none => simp [requireFactors]
  | some xs => simp [requireFactors]

theorem requireConnectable_eq_ok_iff {name : String} :
    plan.requireConnectable name = .ok () ↔
      ∃ kind, plan.nodeKind? name = some kind ∧ kind ≠ .aggregated := by
  unfold requireConnectable
  rw [bind_eq_ok_iff]
  simp only [requireNode_eq_ok_iff]
  refine exists_congr fun kind => and_congr_right fun _ => ?_
  by_cases hagg : kind = .aggregated
  · simp [hagg]
  · rw [if_neg hagg]
    exact ⟨fun _ => hagg, fun _ => rfl⟩

/-- The nodes of a recorder pass when each exists, and is a storage node where its volume is
recorded. -/
theorem requireRecorded_eq_ok_iff {name type : String} {nodes : List String} :
    plan.requireRecorded name type nodes = .ok () ↔
      ∀ node ∈ nodes, ∃ kind, plan.nodeKind? node = some kind ∧
        (type = "StorageVolume" → kind = .storage) := by
  induction nodes with
  | nil => simp [requireRecorded]
  | cons node rest ih =>
    rw [requireRecorded, bind_eq_ok_iff, List.forall_mem_cons, ← ih]
    simp only [requireNode_eq_ok_iff, refusal_eq_ok_iff, not_and, not_not]
    constructor
    · rintro ⟨kind, hkind, hstorage, hrest⟩
      exact ⟨⟨kind, hkind, hstorage⟩, hrest⟩
    · rintro ⟨⟨kind, hkind, hstorage⟩, hrest⟩
      exact ⟨kind, hkind, hstorage, hrest⟩

/-- A single node is accepted under a new name. -/
theorem check_addNode_iff {name : String} {kind : NodeKind} {volume : Option Float} :
    plan.check (.addNode name kind volume) = .ok () ↔
      kind ≠ .aggregated ∧ plan.nodeKind? name = none := by
  rw [check, refusal_eq_ok_iff, requireNewNode_eq_ok_iff]

/-- A group is accepted under a new name, with single nodes as members and a factor for each of them
or none at all. -/
theorem check_addAggregatedNode_iff {name : String} {members : List String}
    {factors : Option (List Float)} :
    plan.check (.addAggregatedNode name members factors) = .ok () ↔
      plan.nodeKind? name = none ∧
      (∀ member ∈ members, ∃ kind, plan.nodeKind? member = some kind ∧ kind ≠ .aggregated) ∧
      ∀ xs, factors = some xs → xs.length = members.length := by
  rw [check, check_bind_eq_ok_iff, check_bind_eq_ok_iff, requireNewNode_eq_ok_iff,
    requireMembers_eq_ok_iff, requireFactors_eq_ok_iff]

/-- A connection is accepted between single nodes. -/
theorem check_connect_iff {source target : String} :
    plan.check (.connect source target) = .ok () ↔
      (∃ kind, plan.nodeKind? source = some kind ∧ kind ≠ .aggregated) ∧
      ∃ kind, plan.nodeKind? target = some kind ∧ kind ≠ .aggregated := by
  rw [check, check_bind_eq_ok_iff, requireConnectable_eq_ok_iff, requireConnectable_eq_ok_iff]

/-- A cost is accepted on a single node, if the parameter that it names exists. -/
theorem check_setCost_iff {node : String} {value : Quantity} :
    plan.check (.setCost node value) = .ok () ↔
      (∃ kind, plan.nodeKind? node = some kind ∧ kind ≠ .aggregated) ∧
      ∀ name, value.parameter? = some name → name ∈ plan.parameterNames := by
  rw [check, bind_eq_ok_iff, ← requireQuantity_eq_ok_iff]
  simp only [requireNode_eq_ok_iff, refusal_eq_ok_iff]
  constructor
  · rintro ⟨kind, hkind, hagg, hvalue⟩
    exact ⟨⟨kind, hkind, hagg⟩, hvalue⟩
  · rintro ⟨⟨kind, hkind, hagg⟩, hvalue⟩
    exact ⟨kind, hkind, hagg, hvalue⟩

/-- A bound is accepted on a node of the right kind, volumes on storage nodes and flows on all
others, if the parameter that it names exists. -/
theorem check_setBound_iff {node : String} {bound : Bound} {value : Quantity} :
    plan.check (.setBound node bound value) = .ok () ↔
      (∃ kind, plan.nodeKind? node = some kind ∧ (bound.isVolume = true ↔ kind = .storage)) ∧
      ∀ name, value.parameter? = some name → name ∈ plan.parameterNames := by
  -- the check compares two truth values, the criterion two statements
  have hsame (kind : NodeKind) :
      bound.isVolume = (kind == .storage) ↔ (bound.isVolume = true ↔ kind = .storage) := by
    rw [Bool.eq_iff_iff, beq_iff_eq]
  rw [check, bind_eq_ok_iff, ← requireQuantity_eq_ok_iff]
  simp only [requireNode_eq_ok_iff, refusal_eq_ok_iff, ne_eq, not_not, hsame]
  constructor
  · rintro ⟨kind, hkind, hfits, hvalue⟩
    exact ⟨⟨kind, hkind, hfits⟩, hvalue⟩
  · rintro ⟨⟨kind, hkind, hfits⟩, hvalue⟩
    exact ⟨kind, hkind, hfits, hvalue⟩

/-- A parameter is accepted under a new name, after all that it reads. -/
theorem check_createParameter_iff {name type : String} {spec : ComponentSpec} :
    plan.check (.createParameter name type spec) = .ok () ↔
      name ∉ plan.parameterNames ∧
      (∀ read ∈ spec.parameterReferences, read ∈ plan.parameterNames) ∧
      ∀ node ∈ spec.nodeReferences, plan.nodeKind? node ≠ none := by
  rw [check, check_bind_eq_ok_iff, requireNew_eq_ok_iff, ← missingParameter?_eq_none_iff]
  refine and_congr_right fun _ => ?_
  cases plan.missingParameter? spec with
  | none =>
    simp only [forM_eq_ok_iff, discard_eq_ok_iff, requireNode_eq_ok_iff, Option.ne_none_iff_exists',
      true_and]
  | some missing => simp

/-- A parameter that reads a missing one is put off. -/
theorem check_createParameter_of_missing {name : String} (type : String) {spec : ComponentSpec}
    (hnew : name ∉ plan.parameterNames)
    (hmissing : ∃ read ∈ spec.parameterReferences, read ∉ plan.parameterNames) :
    ∃ missing, plan.check (.createParameter name type spec) =
      .error (.dependencyNotFound name missing) := by
  cases hfound : plan.missingParameter? spec with
  | none =>
    obtain ⟨read, hread, habsent⟩ := hmissing
    exact absurd (missingParameter?_eq_none_iff.mp hfound read hread) habsent
  | some missing =>
    refine ⟨missing, ?_⟩
    rw [check, requireNew_eq_ok_iff.mpr hnew, hfound]
    rfl

/-- A parameter that reads only existing ones but an unknown node is refused for good. -/
theorem check_createParameter_of_unknown {name : String} (type : String) {spec : ComponentSpec}
    (hnew : name ∉ plan.parameterNames)
    (hreads : ∀ read ∈ spec.parameterReferences, read ∈ plan.parameterNames)
    (hunknown : ∃ node ∈ spec.nodeReferences, plan.nodeKind? node = none) :
    ∃ node ∈ spec.nodeReferences, plan.nodeKind? node = none ∧
      plan.check (.createParameter name type spec) = .error (.unknownNode node) := by
  -- the checks of the name and of the parameters are passed, so that of the nodes decides
  have hcheck : plan.check (.createParameter name type spec) =
      spec.nodeReferences.forM fun node => discard (plan.requireNode node) := by
    rw [check, requireNew_eq_ok_iff.mpr hnew, missingParameter?_eq_none_iff.mpr hreads]
    rfl
  rw [hcheck]
  cases hall : spec.nodeReferences.forM fun node => discard (plan.requireNode node) with
  | ok _ =>
    obtain ⟨node, hnode, hnone⟩ := hunknown
    obtain ⟨kind, hkind⟩ := discard_eq_ok_iff.mp (forM_eq_ok_iff.mp hall node hnode)
    rw [requireNode_eq_ok_iff, hnone] at hkind
    cases hkind
  | error e =>
    obtain ⟨node, hnode, hfail⟩ := exists_error_of_forM_eq_error hall
    cases hkind : plan.requireNode node with
    | ok kind =>
      rw [hkind] at hfail
      cases hfail
    | error e' =>
      rw [hkind] at hfail
      cases hfail
      obtain ⟨hnone, rfl⟩ := requireNode_eq_error_iff.mp hkind
      exact ⟨node, hnode, hnone, rfl⟩

/-- A recorder is accepted under a new name, after all that it watches. -/
theorem check_createRecorder_iff {name type : String} {spec : ComponentSpec} :
    plan.check (.createRecorder name type spec) = .ok () ↔
      name ∉ plan.recorders.map (·.1) ∧
      (∀ node ∈ spec.nodeReferences, ∃ kind, plan.nodeKind? node = some kind ∧
        (type = "StorageVolume" → kind = .storage)) ∧
      ∀ read ∈ spec.parameterReferences, read ∈ plan.parameterNames := by
  rw [check, check_bind_eq_ok_iff, check_bind_eq_ok_iff, requireNew_eq_ok_iff,
    requireRecorded_eq_ok_iff, ← missingParameter?_eq_none_iff]
  refine and_congr_right fun _ => and_congr_right fun _ => ?_
  cases plan.missingParameter? spec with
  | none => simp
  | some missing => simp

/-- An output is accepted under a new name, whatever its file is. -/
theorem check_createOutput_iff {name type : String} {spec : ComponentSpec} :
    plan.check (.createOutput name type spec) = .ok () ↔ name ∉ plan.outputs.map (·.1) :=
  requireNew_eq_ok_iff

end Plan

end FlowPlan
