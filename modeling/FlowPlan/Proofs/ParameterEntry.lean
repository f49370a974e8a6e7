import FlowPlan.Parameter.Entity
import FlowPlan.Proofs.Reader

namespace FlowPlan

open Schema Quantity

namespace Aggregation

theorem inverts_read : Reader.Inverts read fun aggregation => .text aggregation.label := by
  intro aggregation
  cases aggregation with
  | _ => rfl

end Aggregation

namespace Predicate

theorem inverts_read : Reader.Inverts read fun predicate => .text predicate.label := by
  intro predicate
  cases predicate with
  | _ => rfl

end Predicate

namespace Reader

theorem inverts_pair : Inverts (pairOf .pair number number)
    fun pair => Document.reals [pair.1, pair.2] :=
  fun _ => rfl

theorem inverts_reals : Inverts (listOf number) Document.reals :=
  inverts_number.listOf

end Reader

theorem Document.Proper.reals {values : List Float} (h : AllFinite values) :
    (Document.reals values).Proper :=
  .sequence_map fun x hx => .real (h x hx)

theorem Document.Proper.quantities {quantities : List Quantity}
    (h : AllFinite (quantities.flatMap numbers)) :
    (Document.sequence (quantities.map toDocument)).Proper :=
  .sequence_map fun quantity hmem => proper_toDocument (allFinite_flatMap.mp h quantity hmem)

namespace Parameter

/-- The numbers that are written out in the fields, beside those among the quantities. -/
def ownNumbers : Parameter → List Float
  | constant p => [p.value]
  | max p => [p.threshold]
  | polynomial p => p.coefficients
  | monthlyProfile p => p.values
  | controlCurveInterpolated p =>
    (p.values.flatMap fun pair => [pair.1, pair.2]) ++ (p.minimum.toList ++ p.maximum.toList)
  | _ => []

def numbers (p : Parameter) : List Float :=
  p.quantities.flatMap Quantity.numbers ++ p.ownNumbers

instance : constantSchema.Lawful := by
  unfold constantSchema
  infer_instance

instance : aggregatedSchema.Lawful := by
  unfold aggregatedSchema
  infer_instance

instance : negativeSchema.Lawful := by
  unfold negativeSchema
  infer_instance

instance : maxSchema.Lawful := by
  unfold maxSchema
  infer_instance

instance : polynomialSchema.Lawful := by
  unfold polynomialSchema
  infer_instance

instance : monthlyProfileSchema.Lawful := by
  unfold monthlyProfileSchema
  infer_instance

instance : controlCurveIndexSchema.Lawful := by
  unfold controlCurveIndexSchema
  infer_instance

instance : controlCurveInterpolatedSchema.Lawful := by
  unfold controlCurveInterpolatedSchema
  infer_instance

instance : thresholdSchema.Lawful := by
  unfold thresholdSchema
  infer_instance

instance : dataFrameSchema.Lawful := by
  unfold dataFrameSchema
  infer_instance

theorem build_constant (p : ConstantParameter) :
    constantSchema.build (constant p).fields = .ok p := by
  cases p
  apply build_seq _ (build_required Reader.inverts_number rfl)
  exact build_head rfl rfl

theorem build_aggregated (p : AggregatedParameter) :
    aggregatedSchema.build (aggregated p).fields = .ok p := by
  cases p
  apply build_seq _ (build_required inverts_read.listOf rfl)
  apply build_seq _ (build_required Aggregation.inverts_read rfl)
  exact build_head rfl rfl

theorem build_negative (p : NegativeParameter) :
    negativeSchema.build (negative p).fields = .ok p := by
  cases p
  apply build_seq _ (build_quantity rfl)
  exact build_head rfl rfl

theorem build_max (p : MaxParameter) : maxSchema.build (max p).fields = .ok p := by
  cases p
  apply build_seq _ (build_defaulted Reader.inverts_number rfl)
  apply build_seq _ (build_quantity rfl)
  exact build_head rfl rfl

theorem build_polynomial (p : PolynomialParameter) :
    polynomialSchema.build (polynomial p).fields = .ok p := by
  cases p
  apply build_seq _ (build_required Reader.inverts_reals rfl)
  apply build_seq _ (build_quantity rfl)
  exact build_head rfl rfl

theorem build_monthlyProfile (p : MonthlyProfileParameter) :
    monthlyProfileSchema.build (monthlyProfile p).fields = .ok p := by
  cases p
  apply build_seq _ (build_required Reader.inverts_reals rfl)
  exact build_head rfl rfl

theorem build_controlCurveIndex (p : ControlCurveIndexParameter) :
    controlCurveIndexSchema.build (controlCurveIndex p).fields = .ok p := by
  cases p
  apply build_seq _ (build_required inverts_read.listOf rfl)
  apply build_seq _ (build_text rfl)
  exact build_head rfl rfl

/-- A parameter with pairs of values is read back with all its pairs, curves and limits. -/
theorem build_controlCurveInterpolated (p : ControlCurveInterpolatedParameter) :
    controlCurveInterpolatedSchema.build (controlCurveInterpolated p).fields = .ok p := by
  have hreal (x : Float) : Document.real x ≠ .null := fun hnull => by cases hnull
  cases p
  apply build_seq _ (build_optional Reader.inverts_number hreal rfl)
  apply build_seq _ (build_optional Reader.inverts_number hreal rfl)
  apply build_seq _ (build_required Reader.inverts_pair.listOf rfl)
  apply build_seq _ (build_required inverts_read.listOf rfl)
  apply build_seq _ (build_text rfl)
  exact build_head rfl rfl

theorem build_threshold (p : ThresholdParameter) :
    thresholdSchema.build (threshold p).fields = .ok p := by
  cases p
  apply build_seq _ (build_required Predicate.inverts_read rfl)
  apply build_seq _ (build_quantity rfl)
  apply build_seq _ (build_quantity rfl)
  exact build_head rfl rfl

/-- A data frame is read back from its source, its column and whether it has a url or a table. -/
theorem build_dataFrame (p : DataFrameParameter) :
    dataFrameSchema.build (dataFrame p).fields = .ok p := by
  have htext (s : String) : Document.text s ≠ .null := fun hnull => by cases hnull
  cases p
  apply build_seq _ (build_text rfl)
  apply build_seq _ (build_optionalText rfl)
  apply build_seq _ (build_optional Reader.inverts_path htext rfl)
  exact build_head rfl rfl

/-- The fields that the types do not share hold finite numbers when the parameter does. -/
theorem proper_ownFields {p : Parameter} (h : AllFinite p.numbers) :
    ∀ entry ∈ p.ownFields, entry.2.Proper := by
  -- the numbers of a parameter are those of its quantities and its own
  obtain ⟨hquantities, hown⟩ := allFinite_append.mp h
  have hquantity : ∀ quantity ∈ p.quantities, quantity.toDocument.Proper :=
    fun quantity hmem => proper_toDocument (allFinite_flatMap.mp hquantities quantity hmem)
  cases p with
  | constant p =>
    exact List.forall_mem_singleton.mpr (.real (hown _ (List.mem_singleton.mpr rfl)))
  | aggregated p =>
    simp only [ownFields, List.forall_mem_cons]
    exact ⟨.text, .quantities hquantities, List.forall_mem_nil _⟩
  | negative p =>
    exact List.forall_mem_singleton.mpr (hquantity _ (List.mem_singleton.mpr rfl))
  | max p =>
    simp only [ownFields, List.forall_mem_cons]
    exact ⟨hquantity _ (List.mem_singleton.mpr rfl), .real (hown _ (List.mem_singleton.mpr rfl)),
      List.forall_mem_nil _⟩
  | polynomial p =>
    simp only [ownFields, List.forall_mem_cons]
    exact ⟨hquantity _ (List.mem_singleton.mpr rfl), .reals hown, List.forall_mem_nil _⟩
  | monthlyProfile p => exact List.forall_mem_singleton.mpr (.reals hown)
  | controlCurveIndex p =>
    simp only [ownFields, List.forall_mem_cons]
    exact ⟨.text, .quantities hquantities, List.forall_mem_nil _⟩
  | controlCurveInterpolated p =>
    simp only [ownNumbers, allFinite_append, allFinite_flatMap] at hown
    obtain ⟨hvalues, hmin, hmax⟩ := hown
    simp only [ownFields, List.forall_mem_cons]
    exact ⟨.text, .quantities hquantities,
      .sequence_map fun pair hpair => .reals (hvalues pair hpair),
      .optional fun x hx => .real (hmin x (Option.mem_toList.mpr hx)),
      .optional fun x hx => .real (hmax x (Option.mem_toList.mpr hx)), List.forall_mem_nil _⟩
  | threshold p =>
    simp only [ownFields, List.forall_mem_cons]
    exact ⟨hquantity _ List.mem_cons_self, hquantity _ (List.mem_cons_of_mem _ List.mem_cons_self),
      .text, List.forall_mem_nil _⟩
  | dataFrame p =>
    simp only [ownFields, List.forall_mem_cons]
    exact ⟨.optional fun _ _ => .text, .optional fun _ _ => .text, .text, List.forall_mem_nil _⟩

theorem proper_fields {p : Parameter} (h : AllFinite p.numbers) :
    ∀ entry ∈ p.fields, entry.2.Proper := by
  simp only [fields, List.forall_mem_cons]
  exact ⟨.text, .optional fun _ _ => .text, proper_ownFields h⟩

/-- The numbers of a parameter are those of its quantities and those that it holds itself. -/
theorem allFinite_numbers {p : Parameter}
    (hquantities : ∀ quantity ∈ p.quantities, AllFinite quantity.numbers)
    (hown : AllFinite p.ownNumbers) : AllFinite p.numbers :=
  allFinite_append.mpr ⟨allFinite_flatMap.mpr hquantities, hown⟩

section

variable {fields : Fields} (hproper : ∀ entry ∈ fields, entry.2.Proper)

include hproper

theorem finite_of_build_constant {p : ConstantParameter}
    (h : constantSchema.build fields = .ok p) : AllFinite (constant p).numbers := by
  simp only [constantSchema, build_seq_eq_ok_iff] at h
  obtain ⟨_, value, ⟨_, comment, hname, -, rfl⟩, hread, rfl⟩ := h
  obtain ⟨name, -, rfl⟩ := build_map_eq_ok_iff.mp hname
  have hvalue := of_build_required Reader.yields_number hproper hread
  exact allFinite_numbers (List.forall_mem_nil _) (allFinite_cons.mpr ⟨hvalue, allFinite_nil⟩)

theorem finite_of_build_aggregated {p : AggregatedParameter}
    (h : aggregatedSchema.build fields = .ok p) : AllFinite (aggregated p).numbers := by
  simp only [aggregatedSchema, build_seq_eq_ok_iff] at h
  obtain ⟨_, parameters, ⟨_, aggregation, ⟨_, comment, hname, -, rfl⟩, -, rfl⟩, hread, rfl⟩ := h
  obtain ⟨name, -, rfl⟩ := build_map_eq_ok_iff.mp hname
  have hparameters := of_build_required yields_read.listOf hproper hread
  exact allFinite_numbers hparameters allFinite_nil

theorem finite_of_build_negative {p : NegativeParameter}
    (h : negativeSchema.build fields = .ok p) : AllFinite (negative p).numbers := by
  simp only [negativeSchema, build_seq_eq_ok_iff] at h
  obtain ⟨_, parameter, ⟨_, comment, hname, -, rfl⟩, hread, rfl⟩ := h
  obtain ⟨name, -, rfl⟩ := build_map_eq_ok_iff.mp hname
  exact allFinite_numbers (List.forall_mem_singleton.mpr (of_build_quantity hproper hread))
    allFinite_nil

theorem finite_of_build_max {p : MaxParameter} (h : maxSchema.build fields = .ok p) :
    AllFinite (max p).numbers := by
  simp only [maxSchema, build_seq_eq_ok_iff] at h
  obtain ⟨_, threshold, ⟨_, parameter, ⟨_, comment, hname, -, rfl⟩, hread, rfl⟩, hlimit, rfl⟩ := h
  obtain ⟨name, -, rfl⟩ := build_map_eq_ok_iff.mp hname
  have hzero : (0 : Float).isFinite = true := by decide
  have hthreshold := of_build_defaulted Reader.yields_number hzero hproper hlimit
  exact allFinite_numbers (List.forall_mem_singleton.mpr (of_build_quantity hproper hread))
    (allFinite_cons.mpr ⟨hthreshold, allFinite_nil⟩)

theorem finite_of_build_polynomial {p : PolynomialParameter}
    (h : polynomialSchema.build fields = .ok p) : AllFinite (polynomial p).numbers := by
  simp only [polynomialSchema, build_seq_eq_ok_iff] at h
  obtain ⟨_, coefficients, ⟨_, parameter, ⟨_, comment, hname, -, rfl⟩, hread, rfl⟩, hlist,
    rfl⟩ := h
  obtain ⟨name, -, rfl⟩ := build_map_eq_ok_iff.mp hname
  have hcoefficients := of_build_required Reader.yields_number.listOf hproper hlist
  exact allFinite_numbers (List.forall_mem_singleton.mpr (of_build_quantity hproper hread))
    hcoefficients

theorem finite_of_build_monthlyProfile {p : MonthlyProfileParameter}
    (h : monthlyProfileSchema.build fields = .ok p) : AllFinite (monthlyProfile p).numbers := by
  simp only [monthlyProfileSchema, build_seq_eq_ok_iff] at h
  obtain ⟨_, values, ⟨_, comment, hname, -, rfl⟩, hlist, rfl⟩ := h
  obtain ⟨name, -, rfl⟩ := build_map_eq_ok_iff.mp hname
  have hvalues := of_build_required Reader.yields_number.listOf hproper hlist
  exact allFinite_numbers (List.forall_mem_nil _) hvalues

theorem finite_of_build_controlCurveIndex {p : ControlCurveIndexParameter}
    (h : controlCurveIndexSchema.build fields = .ok p) :
    AllFinite (controlCurveIndex p).numbers := by
  simp only [controlCurveIndexSchema, build_seq_eq_ok_iff] at h
  obtain ⟨_, curves, ⟨_, node, ⟨_, comment, hname, -, rfl⟩, -, rfl⟩, hread, rfl⟩ := h
  obtain ⟨name, -, rfl⟩ := build_map_eq_ok_iff.mp hname
  have hcurves := of_build_required yields_read.listOf hproper hread
  exact allFinite_numbers hcurves allFinite_nil

/-- Out of a document that JSON can hold, only finite pairs, curves and limits are read. -/
theorem finite_of_build_controlCurveInterpolated {p : ControlCurveInterpolatedParameter}
    (h : controlCurveInterpolatedSchema.build fields = .ok p) :
    AllFinite (controlCurveInterpolated p).numbers := by
  simp only [controlCurveInterpolatedSchema, build_seq_eq_ok_iff] at h
  obtain ⟨_, maximum, ⟨_, minimum, ⟨_, values, ⟨_, curves, ⟨_, node, ⟨_, comment, hname, -, rfl⟩,
    -, rfl⟩, hread, rfl⟩, hlist, rfl⟩, hlow, rfl⟩, hhigh, rfl⟩ := h
  obtain ⟨name, -, rfl⟩ := build_map_eq_ok_iff.mp hname
  have hcurves := of_build_required yields_read.listOf hproper hread
  have hvalues := of_build_required
    (Reader.yields_number.pairOf Reader.yields_number).listOf hproper hlist
  have hmin := of_build_optional Reader.yields_number hproper hlow
  have hmax := of_build_optional Reader.yields_number hproper hhigh
  refine allFinite_numbers hcurves ?_
  simp only [ownNumbers, allFinite_append, allFinite_flatMap, allFinite_cons]
  exact ⟨fun pair hpair => ⟨(hvalues pair hpair).1, (hvalues pair hpair).2, allFinite_nil⟩,
    fun x hx => hmin x (Option.mem_toList.mp hx), fun x hx => hmax x (Option.mem_toList.mp hx)⟩

theorem finite_of_build_threshold {p : ThresholdParameter}
    (h : thresholdSchema.build fields = .ok p) : AllFinite (threshold p).numbers := by
  simp only [thresholdSchema, build_seq_eq_ok_iff] at h
  obtain ⟨_, predicate, ⟨_, limit, ⟨_, parameter, ⟨_, comment, hname, -, rfl⟩, hread, rfl⟩, hlimit,
    rfl⟩, -, rfl⟩ := h
  obtain ⟨name, -, rfl⟩ := build_map_eq_ok_iff.mp hname
  refine allFinite_numbers ?_ allFinite_nil
  simp only [quantities, List.forall_mem_cons]
  exact ⟨of_build_quantity hproper hread, of_build_quantity hproper hlimit,
    List.forall_mem_nil _⟩

end

end Parameter

end FlowPlan
