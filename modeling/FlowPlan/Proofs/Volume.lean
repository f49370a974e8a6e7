import FlowPlan.Proofs.Precedence
import FlowPlan.Proofs.Reach

/-! Which engine nodes have their volumes read in a model that is built: recorders of volumes watch
storage nodes, but parameters read any nodes that exist, be they storage nodes or not. -/

namespace FlowPlan

open Build Call Resolution

/-- The engine nodes that are created for a node are of its kind. -/
theorem Founded.nodeKind?_of_mem_created {model : Model} {plan : Plan} (h : Founded model plan)
    {node : Node} (hnode : node ∈ model.nodes.entities) {name : String}
    (hname : name ∈ node.created) : plan.nodeKind? name = some node.kind := by
  rw [Node.created_eq_connectors] at hname
  cases node with
  | piecewiseLink link =>
    exact h.nodeKind?_of_mem_engineNodes hnode (List.mem_map_of_mem hname)
  | aggregated group =>
    rw [List.mem_singleton.mp hname]
    exact h.nodeKind?_of_group hnode
  | _ =>
    rw [List.mem_singleton.mp hname]
    exact h.nodeKind?_of_mem_engineNodes hnode (List.mem_singleton.mpr rfl)

/-- An engine node that exists is created for a node. -/
theorem Founded.exists_mem_created {model : Model} {plan : Plan} (h : Founded model plan)
    {name : String} (hname : plan.nodeKind? name ≠ none) :
    ∃ node ∈ model.nodes.entities, name ∈ node.created := by
  rcases h.nodeKind?_ne_none_iff.mp hname with hsingle | ⟨group, hgroup, rfl⟩
  · obtain ⟨node, hnode, hname⟩ := Model.mem_engineNames.mp hsingle
    refine ⟨node, hnode, ?_⟩
    rwa [Node.created_eq_connectors, Node.connectors_eq_engineNames]
    intro hkind
    cases node with
    | aggregated group => cases hname
    | _ => cases hkind
  · exact ⟨_, hgroup, List.mem_singleton.mpr rfl⟩

namespace Model

variable {model : Model}

def DeclaresStorage (model : Model) (name : String) : Prop :=
  ∃ storage, .storage storage ∈ model.nodes.entities ∧ storage.name = name

/-- Whether a component of a model depends on the volume of a node. -/
inductive ReadsVolume (model : Model) : String → Prop
  | recorded {recorder : NodeRecorder}
      (recorder_mem : .storageVolume recorder ∈ model.recorders.entities) :
      ReadsVolume model recorder.node
  | controlled {p : Parameter} {name : String} (parameter_mem : p ∈ model.parameters.entities)
      (stores : p.Stores name) : ReadsVolume model name

/-- The engine nodes of a model are there when its build has come to its end. -/
theorem founded_of_build (hdistinct : model.StepsDistinct) {plan final : Plan}
    (hnew : plan.nodes = []) {report : BuildReport}
    (hbuild : outcome (model.build Plan.engine) plan = (.ok report, final)) :
    Founded model final := by
  obtain ⟨created, -, rfl⟩ := exists_addAll_of_build hbuild
  -- nothing but the requests of the first phase creates nodes
  have hedges : (model.edges.flatMap model.edgeRequests).filterMap Request.node? = [] :=
    List.filterMap_eq_nil_iff.mpr fun request hrequest =>
      (silent_of_mem_edgeRequests request hrequest).1
  have hparameters : (created.map Pending.request).filterMap Request.node? = [] :=
    List.filterMap_eq_nil_iff.mpr (List.forall_mem_map.mpr fun _ _ => rfl)
  have hrecorders : (model.recorders.entities.map model.recorderRequest).filterMap Request.node? =
      [] := List.filterMap_eq_nil_iff.mpr (List.forall_mem_map.mpr fun _ _ => rfl)
  have houtputs : (model.outputs.entities.map model.outputRequest).filterMap Request.node? = [] :=
    List.filterMap_eq_nil_iff.mpr (List.forall_mem_map.mpr fun _ _ => rfl)
  have hlimits : (model.nodes.entities.flatMap constraintRequests).filterMap Request.node? = [] :=
    List.filterMap_eq_nil_iff.mpr fun request hrequest =>
      (silent_of_mem_limitRequests request hrequest).1
  refine (Founded.of_nodeRequests hdistinct hnew).of_nodes_eq ?_
  unfold networkRequests finalRequests
  simp only [Plan.nodes_addAll, List.filterMap_append, hedges, hparameters, hrecorders, houtputs,
    hlimits, List.append_nil]

/-- In a build that succeeds, volumes are recorded at storage nodes only. The storage nodes of
parameters are engine nodes of whatever kind, and all of them are storage nodes just when they are
declared so. -/
theorem volumes_of_build {strictness : Strictness} {document : Document}
    (hload : load? strictness document = .ok model) {solvers : List String}
    {report : BuildReport} {final : Plan}
    (hbuild : outcome (model.build Plan.engine) (Plan.new solvers) = (.ok report, final)) :
    (∀ recorder, .storageVolume recorder ∈ model.recorders.entities →
      model.connectors recorder.node = [recorder.node] ∧
        final.nodeKind? recorder.node = some .storage) ∧
    (∀ p ∈ model.parameters.entities, ∀ name, p.Stores name →
      ∃ node ∈ model.nodes.entities, name ∈ node.created ∧
        final.nodeKind? name = some node.kind) ∧
    ((∀ name, model.ReadsVolume name → final.nodeKind? name = some .storage) ↔
      ∀ p ∈ model.parameters.entities, ∀ name, p.Stores name → model.DeclaresStorage name) := by
  have hbuildable : model.Buildable :=
    (succeeds_build_iff_of_valid (valid_of_load? hload) solvers).mp
      ⟨report, congrArg Prod.fst hbuild⟩
  have hfounded : Founded model final := founded_of_build hbuildable.steps_distinct rfl hbuild
  -- a recorder of volume is checked for its kind, a parameter only for the presence of its node
  have hrecorded (recorder : NodeRecorder)
      (hmem : .storageVolume recorder ∈ model.recorders.entities) :
      model.DeclaresStorage recorder.node := hbuildable.recordable (.storageVolume recorder) hmem
  refine ⟨fun recorder hmem => ?_, fun p hp name hstores => ?_, ?_⟩
  · obtain ⟨storage, hstorage, hname⟩ := hrecorded recorder hmem
    refine ⟨?_, hfounded.nodeKind?_eq_storage_iff.mpr ⟨storage, hstorage, hname⟩⟩
    rw [← hname]
    exact connectors_of_mem hstorage
  · have hknown := hbuildable.nodes_known p hp name hstores
    obtain ⟨node, hnode, hcreated⟩ :=
      hfounded.exists_mem_created (hfounded.nodeKind?_ne_none_iff.mpr hknown)
    exact ⟨node, hnode, hcreated, hfounded.nodeKind?_of_mem_created hnode hcreated⟩
  · constructor
    · intro hall p hp name hstores
      exact hfounded.nodeKind?_eq_storage_iff.mp (hall name (.controlled hp hstores))
    · intro hdeclared name hreads
      apply hfounded.nodeKind?_eq_storage_iff.mpr
      cases hreads with
      | recorded recorder_mem => exact hrecorded _ recorder_mem
      | controlled parameter_mem stores => exact hdeclared _ parameter_mem _ stores

/-- A mill pond with its race. One index is taken from the volume of the pond, which is recorded,
and another one from that of the race, which is no storage node. -/
def millrace : Document :=
  .mapping [
    ("timestepper", .mapping [("start", .text "2020-01-01"), ("end", .text "2020-01-31"),
      ("timestep", .number (.integer 1))]),
    ("nodes", .sequence [
      .mapping [("type", .text "Storage"), ("name", .text "pond")],
      .mapping [("type", .text "Link"), ("name", .text "race")]]),
    ("parameters", .sequence [
      .mapping [("type", .text "ControlCurveIndex"), ("name", .text "stock"),
        ("storage_node", .text "pond"), ("control_curves", .sequence [])],
      .mapping [("type", .text "ControlCurveIndex"), ("name", .text "level"),
        ("storage_node", .text "race"), ("control_curves", .sequence [])]]),
    ("recorders", .sequence [
      .mapping [("type", .text "StorageVolume"), ("name", .text "volume"),
        ("node", .text "pond")]])]

theorem exists_build_millrace :
    ∃ model report final, load? .strict millrace = .ok model ∧
      outcome (model.build Plan.engine) (Plan.new []) = (.ok report, final) ∧
      model.recorders.entities.map Recorder.nodeReferences = [["pond"]] ∧
      model.parameters.entities.map Parameter.nodeReferences = [["pond"], ["race"]] ∧
      final.nodeKind? "race" = some .link := by
  have hbuilt : ((load? .strict millrace).toOption.bind fun model =>
      match outcome (model.build Plan.engine) (Plan.new []) with
      | (.ok _, final) =>
        some (model.recorders.entities.map Recorder.nodeReferences,
          model.parameters.entities.map Parameter.nodeReferences, final.nodeKind? "race")
      | (.error _, _) => none) =
        some ([["pond"]], [["pond"], ["race"]], some .link) := by decide +kernel
  obtain ⟨model, hload, hend⟩ := bind_toOption_eq_some_iff.mp hbuilt
  split at hend
  · rename_i report final hbuild
    simp only [Option.some.injEq, Prod.mk.injEq] at hend
    obtain ⟨hrecorders, hparameters, hkind⟩ := hend
    exact ⟨model, report, final, hload, hbuild, hrecorders, hparameters, hkind⟩
  · cases hend

theorem volumes_of_build_millrace :
    ∃ model report final, load? .strict millrace = .ok model ∧
      outcome (model.build Plan.engine) (Plan.new []) = (.ok report, final) ∧
      (∀ recorder, .storageVolume recorder ∈ model.recorders.entities →
        model.connectors recorder.node = [recorder.node] ∧
          final.nodeKind? recorder.node = some .storage) ∧
      (∀ p ∈ model.parameters.entities, ∀ name, p.Stores name →
        ∃ node ∈ model.nodes.entities, name ∈ node.created ∧
          final.nodeKind? name = some node.kind) ∧
      ((∀ name, model.ReadsVolume name → final.nodeKind? name = some .storage) ↔
        ∀ p ∈ model.parameters.entities, ∀ name, p.Stores name → model.DeclaresStorage name) := by
  obtain ⟨model, report, final, hload, hbuild, -⟩ := exists_build_millrace
  exact ⟨model, report, final, hload, hbuild, volumes_of_build hload hbuild⟩

/-- The volume of a link may be read. -/
theorem not_only_storage_read :
    ¬∀ (strictness : Strictness) (document : Document) (model : Model) (solvers : List String)
      (report : BuildReport) (final : Plan), load? strictness document = .ok model →
      outcome (model.build Plan.engine) (Plan.new solvers) = (.ok report, final) →
      ∀ name, model.ReadsVolume name → final.nodeKind? name = some .storage := by
  intro hclaim
  obtain ⟨model, report, final, hload, hbuild, -, hparameters, hkind⟩ := exists_build_millrace
  have hrace : ["race"] ∈ model.parameters.entities.map Parameter.nodeReferences := by
    rw [hparameters]
    decide
  obtain ⟨p, hp, hreferences⟩ := List.mem_map.mp hrace
  have hstores : p.Stores "race" := by
    rw [Parameter.stores_iff, hreferences]
    exact List.mem_singleton.mpr rfl
  have hstorage := hclaim .strict millrace model [] report final hload hbuild "race"
    (.controlled hp hstores)
  rw [hkind] at hstorage
  cases hstorage

end Model

end FlowPlan
