import FlowPlan.Proofs.Reload
import FlowPlan.Proofs.Rounds

namespace FlowPlan

/-- Whether an engine that is handed the kind and the component of an entry can rebuild the entry,
and with it all that the component is said to read. -/
structure Rebuilds {α : Type} [Entity α] (a : α) (spec : ComponentSpec)
    (readParameters readNodes : α → List String) : Prop where
  /-- The kind is the type in the document of the entry, and the attributes are all else there. -/
  document : ∃ written : Fields, (Entity.toDocument a).finite = .mapping written ∧
    written.value? "type" = some (.text (Entity.typeName a)) ∧
    spec.attributes.Perm (written.filter fun entry => entry.1 ≠ "type")
  entry : ∃ (schema : Schema α) (rebuilt : α),
    Entity.registry.resolve (Entity.typeName a) = .ok schema ∧
    schema.read spec.attributes = .ok rebuilt ∧ rebuilt = a ∧
    spec.parameterReferences = readParameters rebuilt ∧ spec.nodeReferences = readNodes rebuilt

namespace Entity

variable {α : Type} [Entity α] [LawfulEntity α]

/-- Writing loses no number of an entry that has only finite ones. -/
theorem finiteFields_written {a : α} (hfinite : AllFinite (LawfulEntity.numbers a)) :
    Document.finiteFields (written a) = written a := by
  have hproper := (proper_toDocument hfinite).finite_eq
  exact Document.mapping.inj hproper

/-- An entry without numbers that are not finite is rebuilt from any component with its fields. -/
theorem rebuilds_of_finite {a : α} (hfinite : AllFinite (LawfulEntity.numbers a))
    {spec : ComponentSpec} (hattributes : spec.attributes = (ComponentSpec.ofEntity a).attributes)
    {readParameters readNodes : α → List String}
    (hparameters : spec.parameterReferences = readParameters a)
    (hnodes : spec.nodeReferences = readNodes a) : Rebuilds a spec readParameters readNodes := by
  -- without infinite numbers nothing is lost in writing, so the attributes are the written fields
  have hwritten : spec.attributes = Fields.takeOut "type" (written a) := by
    rw [hattributes, ← finiteFields_written hfinite]
    rfl
  obtain ⟨schema, hfind, hreads⟩ := exists_reads_written a
  rw [LawfulEntity.tag_eq] at hfind
  -- the fields are read back as the entry, and its references are read off from it again
  exact {
    document := by
      refine ⟨written a, (proper_toDocument hfinite).finite_eq, ?_, ?_⟩
      · rw [← LawfulEntity.tag_eq]
        rfl
      · rw [hwritten]
        exact Fields.takeOut_perm (nodup_keys a)
    entry := by
      refine ⟨schema, a, Registry.resolve_eq_ok_iff.mpr hfind, ?_, rfl, hparameters, hnodes⟩
      rw [hwritten]
      exact (hreads .strict).read }

end Entity

/-- An engine can rebuild every parameter, recorder and output from what it is handed for it. -/
theorem engine_rebuilds_components :
    (∀ (context : SpecContext) (p : Parameter) (spec : ComponentSpec), AllFinite p.numbers →
      p.spec context = .ok spec →
        Rebuilds p spec Parameter.parameterReferences Parameter.nodeReferences) ∧
    (∀ recorder : Recorder,
      Rebuilds recorder recorder.spec Recorder.parameterReferences Recorder.nodeReferences) ∧
    ∀ (context : SpecContext) (output : Output),
      Rebuilds output (output.spec context) (fun _ => []) (fun _ => []) := by
  refine ⟨fun context p spec hfinite hspec => ?_, fun recorder => ?_, fun context output => ?_⟩
  · have hfits := Resolution.fits_of_spec hspec
    have hattributes : spec.attributes = (ComponentSpec.ofEntity p).attributes := by
      obtain ⟨files, -, hmade⟩ := bind_eq_ok_iff.mp hspec
      cases hmade
      rfl
    exact Entity.rebuilds_of_finite hfinite hattributes hfits.parameters hfits.nodes
  · have hattributes : recorder.spec.attributes =
        (ComponentSpec.ofEntity recorder).attributes := rfl
    exact Entity.rebuilds_of_finite allFinite_nil hattributes rfl rfl
  · have hattributes : (output.spec context).attributes =
        (ComponentSpec.ofEntity output).attributes := rfl
    exact Entity.rebuilds_of_finite allFinite_nil hattributes rfl rfl

def release : Parameter :=
  .controlCurveInterpolated {
    name := "release", comment := none, storageNode := "lake"
    controlCurves := [.constant 0.75, .parameter "season"]
    values := [(10, 8), (6, 4), (2, 0.5)], minimum := some 0.5, maximum := none }

theorem engine_rebuilds_components_release :
    AllFinite release.numbers ∧ ∃ spec : ComponentSpec,
      release.spec { tables := .empty, basePath := none } = .ok spec ∧
      Rebuilds release spec Parameter.parameterReferences Parameter.nodeReferences ∧
      spec.parameterReferences = ["season"] ∧ spec.nodeReferences = ["lake"] := by
  have hfinite : AllFinite release.numbers := by decide +kernel
  refine ⟨hfinite, _, rfl, ?_, rfl, rfl⟩
  exact engine_rebuilds_components.1 { tables := .empty, basePath := none } release _ hfinite rfl

end FlowPlan
