import FlowPlan.Proofs.Foundation

namespace FlowPlan

/-- Whether the parameters of a plan are those of a model. -/
def Supplied (model : Model) (plan : Plan) : Prop :=
  ∀ name, name ∈ plan.parameterNames ↔ model.parameters.contains name = true

namespace Model

variable {model : Model} {plan : Plan}

/-- Whether what a recorder watches is there: a node or an engine node for flows, a storage node for
volumes, a parameter for the others. -/
def Recordable (model : Model) : Recorder → Prop
  | .nodeFlow recorder =>
    model.nodes.contains recorder.node = true ∨ recorder.node ∈ model.engineNames
  | .storageVolume recorder =>
    ∃ storage, .storage storage ∈ model.nodes.entities ∧ storage.name = recorder.node
  | .parameter recorder => model.parameters.contains recorder.parameter = true

/-- All engine nodes that a name stands for are there when it is that of a node or of one of
them. -/
theorem forall_connectors_known_iff (h : Founded model plan) {name : String} :
    (∀ connector ∈ model.connectors name, ∃ kind, plan.nodeKind? connector = some kind) ↔
      model.nodes.contains name = true ∨ name ∈ model.engineNames := by
  simp only [← Option.ne_none_iff_exists', h.nodeKind?_ne_none_iff]
  -- what is declared is known under all its connectors, a group under its own name
  rcases model.declared_or_not name with ⟨node, hnode, rfl⟩ | hnot
  · have hdeclared : model.nodes.contains node.name = true := Collection.contains_of_mem hnode
    refine iff_of_true (fun connector hconnector => ?_) (Or.inl hdeclared)
    rw [connectors_of_mem hnode] at hconnector
    by_cases hkind : node.kind = .aggregated
    · cases node with
      | aggregated group =>
        exact Or.inr ⟨group, hnode, (List.mem_singleton.mp hconnector).symm⟩
      | _ => cases hkind
    · rw [Node.connectors_eq_engineNames hkind] at hconnector
      exact Or.inl (mem_engineNames.mpr ⟨node, hnode, hconnector⟩)
  · -- what is not declared can still be the name of a step, but not of a group
    rw [connectors_of_not_declared hnot, List.forall_mem_singleton, hnot]
    simp only [Bool.false_eq_true, false_or]
    refine or_iff_left ?_
    rintro ⟨group, hgroup, rfl⟩
    have hdeclared : model.nodes.contains group.name = true := Collection.contains_of_mem hgroup
    rw [hdeclared] at hnot
    cases hnot

/-- All engine nodes that a name stands for hold volumes when it is that of a storage node. -/
theorem forall_connectors_storage_iff (hvalid : model.Valid) (h : Founded model plan)
    {name : String} :
    (∀ connector ∈ model.connectors name, plan.nodeKind? connector = some .storage) ↔
      ∃ storage, .storage storage ∈ model.nodes.entities ∧ storage.name = name := by
  constructor
  · intro hall
    obtain ⟨connector, hconnector⟩ := List.exists_mem_of_ne_nil _ (connectors_ne_nil hvalid name)
    obtain ⟨storage, hstorage, hname⟩ := h.nodeKind?_eq_storage_iff.mp (hall connector hconnector)
    refine ⟨storage, hstorage, hname.trans ?_⟩
    rcases model.declared_or_not name with ⟨node, hnode, rfl⟩ | hnot
    · rw [connectors_of_mem hnode] at hconnector
      cases node with
      | piecewiseLink link =>
        -- a step is a link, so it is no storage node of the same name
        have hkind := hall connector (by rwa [connectors_of_mem hnode])
        have hstep : (connector, NodeKind.link) ∈ (Node.piecewiseLink link).engineNodes :=
          List.mem_map_of_mem hconnector
        rw [h.nodeKind?_of_mem_engineNodes hnode hstep] at hkind
        cases hkind
      | _ => exact List.mem_singleton.mp hconnector
    · rw [connectors_of_not_declared hnot] at hconnector
      exact List.mem_singleton.mp hconnector
  · rintro ⟨storage, hstorage, rfl⟩ connector hconnector
    have hconnectors := connectors_of_mem hstorage
    change model.connectors storage.name = [storage.name] at hconnectors
    rw [hconnectors] at hconnector
    rw [List.mem_singleton.mp hconnector]
    exact h.nodeKind?_eq_storage_iff.mpr ⟨storage, hstorage, rfl⟩

/-- Once all nodes and parameters are in the plan, a recorder is accepted exactly when its name is
new and the model has what it records. -/
theorem check_recorderRequest_iff (hvalid : model.Valid) (h : Founded model plan)
    (hsupplied : Supplied model plan) (recorder : Recorder) :
    plan.check (model.recorderRequest recorder) = .ok () ↔
      recorder.name ∉ plan.recorders.map Prod.fst ∧ model.Recordable recorder := by
  unfold recorderRequest
  rw [Plan.check_createRecorder_iff]
  refine and_congr_right fun _ => ?_
  -- each recorder watches nodes or a parameter, and one of them also asks for the kind
  cases recorder with
  | nodeFlow recorder =>
    have hnodes : (model.recorderSpec (.nodeFlow recorder)).nodeReferences =
        model.connectors recorder.node := List.flatMap_singleton ..
    have hreads : (model.recorderSpec (.nodeFlow recorder)).parameterReferences = [] := rfl
    have hflow : (Recorder.nodeFlow recorder).typeName ≠ "StorageVolume" := by
      change "NodeFlow" ≠ "StorageVolume"
      decide
    rw [hnodes, hreads]
    simp only [hflow, false_imp_iff, and_true, List.not_mem_nil, implies_true]
    exact forall_connectors_known_iff h
  | storageVolume recorder =>
    have hnodes : (model.recorderSpec (.storageVolume recorder)).nodeReferences =
        model.connectors recorder.node := List.flatMap_singleton ..
    have hreads : (model.recorderSpec (.storageVolume recorder)).parameterReferences = [] := rfl
    have hvolume : (Recorder.storageVolume recorder).typeName = "StorageVolume" := rfl
    rw [hnodes, hreads]
    simp only [hvolume, true_imp_iff, exists_eq_right, and_true, List.not_mem_nil, false_imp_iff,
      implies_true]
    exact forall_connectors_storage_iff hvalid h
  | parameter recorder =>
    have hnodes : (model.recorderSpec (.parameter recorder)).nodeReferences = [] := rfl
    have hreads : (model.recorderSpec (.parameter recorder)).parameterReferences =
        [recorder.parameter] := rfl
    rw [hnodes, hreads, List.forall_mem_singleton, hsupplied]
    simp only [List.not_mem_nil, false_imp_iff, implies_true, true_and]
    exact Iff.rfl

/-- Recorders and outputs change neither the nodes nor the parameters of a plan. -/
theorem founded_and_supplied_addAll (h : Founded model plan) (hsupplied : Supplied model plan)
    {requests : List Request} (hnodes : ∀ request ∈ requests, request.node? = none)
    (hparameters : ∀ request ∈ requests, request.parameter? = none) :
    Founded model (plan.addAll requests) ∧ Supplied model (plan.addAll requests) := by
  constructor
  · refine h.of_nodes_eq ?_
    rw [Plan.nodes_addAll, List.filterMap_eq_nil_iff.mpr hnodes, List.append_nil]
  · unfold Supplied Plan.parameterNames
    rw [Plan.parameters_addAll, List.filterMap_eq_nil_iff.mpr hparameters, List.append_nil]
    exact hsupplied

theorem map_fst_recorders_addAll (hnew : plan.recorders = []) (recorders : List Recorder) :
    (plan.addAll (recorders.map model.recorderRequest)).recorders.map Prod.fst =
      recorders.map Recorder.name := by
  rw [Plan.recorders_addAll, hnew, List.nil_append, List.filterMap_map, List.map_filterMap,
    ← List.filterMap_eq_map]
  rfl

/-- The recorders of a model can be created when what each of them watches is there. -/
theorem admits_recorderRequests_iff (hvalid : model.Valid) (h : Founded model plan)
    (hsupplied : Supplied model plan) (hnew : plan.recorders = []) :
    plan.Admits (model.recorders.entities.map model.recorderRequest) ↔
      ∀ recorder ∈ model.recorders.entities, model.Recordable recorder := by
  -- the recorders before only take names away
  have hcheck : ∀ before, before ⊆ model.recorders.entities →
      ∀ recorder ∈ model.recorders.entities,
        ((plan.addAll (before.map model.recorderRequest)).check (model.recorderRequest recorder) =
          .ok () ↔ recorder.name ∉ [] ++ before.map Recorder.name ∧ model.Recordable recorder) := by
    intro before _ recorder _
    obtain ⟨hfounded, hstill⟩ := founded_and_supplied_addAll h hsupplied
      (List.forall_mem_map.mpr fun (other : Recorder) (_ : other ∈ before) =>
        (rfl : (model.recorderRequest other).node? = none))
      (List.forall_mem_map.mpr fun _ _ => rfl)
    rw [check_recorderRequest_iff hvalid hfounded hstill, map_fst_recorders_addAll hnew,
      List.nil_append]
  rw [Plan.admits_map_iff hcheck]
  constructor
  · exact fun hall recorder hrecorder => (hall.2 recorder hrecorder).2
  · exact fun hall => ⟨model.recorders.nodup, fun recorder hrecorder =>
      ⟨List.not_mem_nil, hall recorder hrecorder⟩⟩

/-- Outputs have distinct names, and nothing else can be wrong with them. -/
theorem admits_outputRequests (model : Model) (hnew : plan.outputs = []) :
    plan.Admits (model.outputs.entities.map model.outputRequest) := by
  -- an output only has to be new among those before it
  have hcheck : ∀ before, before ⊆ model.outputs.entities → ∀ output ∈ model.outputs.entities,
      ((plan.addAll (before.map model.outputRequest)).check (model.outputRequest output) = .ok () ↔
        output.name ∉ [] ++ before.map Output.name ∧ True) := by
    intro before _ output _
    have hnames : (plan.addAll (before.map model.outputRequest)).outputs.map Prod.fst =
        before.map Output.name := by
      rw [Plan.outputs_addAll, hnew, List.nil_append, List.filterMap_map, List.map_filterMap,
        ← List.filterMap_eq_map]
      rfl
    unfold outputRequest at hnames ⊢
    rw [Plan.check_createOutput_iff, hnames, List.nil_append, and_true]
  exact (Plan.admits_map_iff hcheck).mpr
    ⟨model.outputs.nodup, fun _ _ => ⟨List.not_mem_nil, trivial⟩⟩

end Model

end FlowPlan
