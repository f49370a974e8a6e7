import FlowPlan.Proofs.Comparison
import FlowPlan.Proofs.Reload
import FlowPlan.Proofs.Timestepper

namespace FlowPlan

theorem Quantity.bind_constant?_eq_some_iff {quantity : Option Quantity} {x : Float} :
    quantity.bind constant? = some x ↔ quantity = some (.constant x) := by
  cases quantity with
  | none => simp
  | some found => cases found <;> simp [constant?]

/-- A value that is written out, and finite as all values of an entry, is a number. -/
theorem Quantity.isNaN_of_constant {quantity : Option Quantity} {x : Float}
    (hfinite : ∀ q ∈ quantity, AllFinite q.numbers) (h : quantity = some (.constant x)) :
    x.isNaN = false := by
  have hnumbers : AllFinite [x] := hfinite (.constant x) h
  exact isNaN_eq_false_of_isFinite (hnumbers x (List.mem_singleton.mpr rfl))

namespace Timestepper

/-- Whether a schedule goes on from its first day, in steps of at least one. -/
structure WellFormed (timestepper : Timestepper) : Prop where
  timestep_pos : 1 ≤ timestepper.timestep
  start_le_stop : timestepper.start.dayNumber ≤ timestepper.stop.dayNumber

theorem wellFormed_of_valid {timestepper : Timestepper} (h : timestepper.validate = .ok ()) :
    timestepper.WellFormed := by
  obtain ⟨hzero, hbefore⟩ := validate_eq_ok_iff.mp h
  constructor
  · have hpos : 0 < timestepper.timestep := UInt32.pos_iff_ne_zero.mpr hzero
    exact UInt32.le_iff_toNat_le.mpr (UInt32.lt_iff_toNat_lt.mp hpos)
  · rw [Date.before_iff] at hbefore
    exact not_lt.mp hbefore

end Timestepper

namespace StorageNode

/-- Whether the volumes of a storage node that are written out are in order. -/
structure WellFormed (node : StorageNode) : Prop where
  initial_nonneg : 0 ≤ node.initialVolume
  initial_le_maximum : ∀ maximum, node.maxVolume = some (.constant maximum) →
    node.initialVolume ≤ maximum
  minimum_le_maximum : ∀ minimum maximum, node.minVolume = some (.constant minimum) →
    node.maxVolume = some (.constant maximum) → minimum ≤ maximum

theorem wellFormed_of_valid {node : StorageNode} (hvalid : node.invalidity? = none)
    (hfinite : AllFinite node.numbers) : node.WellFormed := by
  obtain ⟨hinitial, hquantities⟩ := allFinite_cons.mp hfinite
  obtain ⟨-, hquantities⟩ := Quantity.allFinite_numbersOf_cons.mp hquantities
  obtain ⟨hminimum, hquantities⟩ := Quantity.allFinite_numbersOf_cons.mp hquantities
  obtain ⟨hmaximum, -⟩ := Quantity.allFinite_numbersOf_cons.mp hquantities
  have hnumber := isNaN_eq_false_of_isFinite hinitial
  obtain ⟨hnegative, hbounds⟩ := refusal_eq_none_iff.mp hvalid
  -- volumes are compared with a maximum only where it is written out
  have habove {maximum : Float} (hwritten : node.maxVolume = some (.constant maximum)) :
      ¬node.initialVolume > maximum ∧ ∀ minimum, node.minVolume = some (.constant minimum) →
        ¬minimum > maximum := by
    rw [Quantity.bind_constant?_eq_some_iff.mpr hwritten] at hbounds
    obtain ⟨hinitial_above, hrest⟩ := refusal_eq_none_iff.mp hbounds
    refine ⟨hinitial_above, fun minimum hminimum_written => ?_⟩
    rw [Quantity.bind_constant?_eq_some_iff.mpr hminimum_written] at hrest
    exact (refusal_eq_none_iff.mp hrest).1
  constructor
  · exact float_le_of_not_lt (by decide +kernel) hnumber fun h => hnegative (.inr h)
  · intro maximum hwritten
    exact float_le_of_not_lt hnumber (Quantity.isNaN_of_constant hmaximum hwritten)
      (habove hwritten).1
  · intro minimum maximum hminimum_written hmaximum_written
    exact float_le_of_not_lt (Quantity.isNaN_of_constant hminimum hminimum_written)
      (Quantity.isNaN_of_constant hmaximum hmaximum_written)
      ((habove hmaximum_written).2 minimum hminimum_written)

end StorageNode

namespace AggregatedNode

/-- Whether a group has members, and as many positive factors if it has factors. -/
structure WellFormed (node : AggregatedNode) : Prop where
  members_ne_nil : node.members ≠ []
  factors_positive : ∀ factors, node.factors = some factors →
    factors.length = node.members.length ∧ ∀ x ∈ factors, x.isFinite = true ∧ 0 < x

theorem wellFormed_of_valid {node : AggregatedNode} (hvalid : node.invalidity? = none) :
    node.WellFormed := by
  obtain ⟨hmembers, hrest⟩ := refusal_eq_none_iff.mp hvalid
  constructor
  · exact fun hnone => hmembers (List.isEmpty_iff.mpr hnone)
  · intro factors hfactors
    rw [hfactors] at hrest
    obtain ⟨hcount, hrest⟩ := refusal_eq_none_iff.mp hrest
    rw [Option.map_eq_none_iff, List.find?_eq_none] at hrest
    refine ⟨not_not.mp hcount, fun x hx => ?_⟩
    have hchecked := hrest x hx
    simp only [Bool.or_eq_true, Bool.not_eq_true', decide_eq_true_eq, not_or,
      Bool.not_eq_false] at hchecked
    obtain ⟨hfinite, hpositive⟩ := hchecked
    exact ⟨hfinite, float_lt_of_not_le (by decide +kernel) (isNaN_eq_false_of_isFinite hfinite)
      hpositive⟩

end AggregatedNode

namespace Node

def WellFormed : Node → Prop
  | storage node => node.WellFormed
  | aggregated node => node.WellFormed
  | piecewiseLink node => node.steps ≠ []
  | _ => True

theorem wellFormed_of_valid {node : Node} (hvalid : node.invalidity? = none)
    (hfinite : AllFinite node.numbers) : node.WellFormed := by
  cases node with
  | storage node => exact StorageNode.wellFormed_of_valid hvalid hfinite
  | aggregated node => exact AggregatedNode.wellFormed_of_valid hvalid
  | piecewiseLink node =>
    intro hnone
    simp [invalidity?, hnone] at hvalid
  | _ => exact trivial

end Node

namespace ControlCurveInterpolatedParameter

/-- Whether there are values for both edges of all bands, and the limits are in order. -/
structure WellFormed (p : ControlCurveInterpolatedParameter) : Prop where
  values_length : p.values.length = p.controlCurves.length + 1
  minimum_le_maximum : ∀ minimum maximum, p.minimum = some minimum → p.maximum = some maximum →
    minimum ≤ maximum

end ControlCurveInterpolatedParameter

namespace Parameter

def WellFormed : Parameter → Prop
  | aggregated p => p.parameters ≠ []
  | monthlyProfile p => p.values.length = 12
  | controlCurveInterpolated p => p.WellFormed
  | dataFrame p => p.url ≠ none ↔ p.table = none
  | _ => True

theorem wellFormed_of_interpolation {p : ControlCurveInterpolatedParameter}
    (hvalid : interpolationInvalidity? p = none)
    (hfinite : AllFinite (controlCurveInterpolated p).numbers) : p.WellFormed := by
  -- the limits are among the numbers of the parameter, and so can be compared
  obtain ⟨-, hown⟩ := allFinite_append.mp hfinite
  obtain ⟨-, hlimits⟩ := allFinite_append.mp hown
  obtain ⟨hcount, hrest⟩ := refusal_eq_none_iff.mp hvalid
  refine ⟨not_not.mp hcount, fun minimum maximum hminimum hmaximum => ?_⟩
  rw [hminimum, hmaximum] at hrest hlimits
  have hminimum_number := isNaN_eq_false_of_isFinite (hlimits minimum (by simp))
  have hmaximum_number := isNaN_eq_false_of_isFinite (hlimits maximum (by simp))
  exact float_le_of_not_lt hminimum_number hmaximum_number (refusal_eq_none_iff.mp hrest).1

theorem wellFormed_of_valid {p : Parameter} (hvalid : p.invalidity? = none)
    (hfinite : AllFinite p.numbers) : p.WellFormed := by
  cases p with
  | aggregated p =>
    exact fun hnone => (refusal_eq_none_iff.mp hvalid).1 (List.isEmpty_iff.mpr hnone)
  | monthlyProfile p => exact not_not.mp (refusal_eq_none_iff.mp hvalid).1
  | controlCurveInterpolated p => exact wellFormed_of_interpolation hvalid hfinite
  | dataFrame p =>
    unfold invalidity? at hvalid
    unfold WellFormed
    cases hurl : p.url <;> cases htable : p.table <;> simp [hurl, htable] at hvalid ⊢
  | _ => exact trivial

end Parameter

/-- Whether an entry comes out of a section of documents that JSON can hold. -/
def Entity.Loaded {α : Type} [Entity α] (a : α) : Prop :=
  ∃ (strictness : Strictness) (documents : List Document) (collection : Collection α),
    (∀ document ∈ documents, document.Proper) ∧
      Load.result (Collection.load strictness documents) = .ok collection ∧
        a ∈ collection.entities

/-- A loaded entry has passed its check, with numbers that are all finite. -/
theorem Entity.Loaded.valid_and_finite {α : Type} [Entity α] [LawfulEntity α] {a : α}
    (h : Loaded a) : invalidity? a = none ∧ AllFinite (LawfulEntity.numbers a) := by
  obtain ⟨strictness, documents, collection, hproper, hload, ha⟩ := h
  have hall : ∀ a ∈ collection.entities,
      invalidity? a = none ∧ AllFinite (LawfulEntity.numbers a) := by
    refine forall_mem_of_forall₂ (Collection.load_eq_ok_iff.mp hload) ?_
    intro document hdocument a hloads
    exact ⟨hloads.valid, hloads.finite (hproper document hdocument)⟩
  exact hall a ha

/-- What holds of all entries and of a new one holds of all once it is added. -/
theorem Collection.forall_of_insert {α : Type} [Entity α] {collection next : Collection α} {a : α}
    {P : α → Prop} (h : ∀ a ∈ collection.entities, P a) (ha : P a)
    (hinsert : collection.insert a = .ok next) : ∀ a ∈ next.entities, P a := by
  rw [insert_eq_ok_iff.mp hinsert, List.forall_mem_append, List.forall_mem_singleton]
  exact ⟨h, ha⟩

namespace Model

/-- Whether all parts of a model are well-formed, and the names of each section distinct. -/
structure WellFormed (model : Model) : Prop where
  timestepper : model.timestepper.WellFormed
  nodes : ∀ node ∈ model.nodes.entities, node.WellFormed
  parameters : ∀ p ∈ model.parameters.entities, p.WellFormed
  distinct_nodes : model.nodes.names.Nodup
  distinct_parameters : model.parameters.names.Nodup
  distinct_recorders : model.recorders.names.Nodup
  distinct_tables : model.tables.names.Nodup
  distinct_outputs : model.outputs.names.Nodup

/-- All that the checks of loading ask of the entries, and the reading of names and numbers, adds up
to a model that is well formed. -/
theorem wellFormed_of_load? {strictness : Strictness} {document : Document} {model : Model}
    (hproper : document.Proper) (h : load? strictness document = .ok model) :
    model.WellFormed := by
  -- the checks give the bounds, the reading gives finite numbers, the collections distinct names
  have hvalid := valid_of_load? h
  obtain ⟨fields, rfl, hloads⟩ := load?_eq_ok_iff.mp h
  have hfinite := hloads.finite hproper.values
  exact {
    timestepper := by
      obtain ⟨schedule, -, hschedule⟩ := hloads.timestepper
      cases hschedule with
      | mapping _ valid => exact Timestepper.wellFormed_of_valid valid
    nodes := fun node hnode =>
      Node.wellFormed_of_valid (hvalid.nodes node hnode) (hfinite.nodes node hnode)
    parameters := fun p hp =>
      Parameter.wellFormed_of_valid (hvalid.parameters p hp) (hfinite.parameters p hp)
    distinct_nodes := model.nodes.nodup
    distinct_parameters := model.parameters.nodup
    distinct_recorders := model.recorders.nodup
    distinct_tables := model.tables.nodup
    distinct_outputs := model.outputs.nodup }

inductive Addition where
  | node (node : Node)
  | parameter (p : Parameter)
  | recorder (recorder : Recorder)
  | table (table : Table)
  | output (output : Output)

namespace Addition

def Loaded : Addition → Prop
  | .node a => Entity.Loaded a
  | .parameter a => Entity.Loaded a
  | .recorder a => Entity.Loaded a
  | .table a => Entity.Loaded a
  | .output a => Entity.Loaded a

end Addition

def add (model : Model) : Addition → Except ModelError Model
  | .node node => do return { model with nodes := ← model.nodes.insert node }
  | .parameter p => do return { model with parameters := ← model.parameters.insert p }
  | .recorder recorder => do return { model with recorders := ← model.recorders.insert recorder }
  | .table table => do return { model with tables := ← model.tables.insert table }
  | .output output => model.addOutput output

/-- The model after some additions, in order. Those that fail leave it as it is. -/
def after (model : Model) (additions : List Addition) : Model :=
  additions.foldl (fun model addition => (model.add addition).toOption.getD model) model

/-- An addition that succeeds puts its entry, which has been checked, under a new name. -/
theorem WellFormed.add {model next : Model} {addition : Addition} (h : model.WellFormed)
    (hloaded : addition.Loaded) (hadd : model.add addition = .ok next) : next.WellFormed := by
  -- an addition touches one collection, and leaves the others as they were
  cases addition with
  | node node =>
    obtain ⟨nodes, hinsert, hnext⟩ := bind_eq_ok_iff.mp hadd
    cases hnext
    obtain ⟨hvalid, hfinite⟩ := Entity.Loaded.valid_and_finite (a := node) hloaded
    have hnode := Node.wellFormed_of_valid hvalid hfinite
    exact { h with
      nodes := Collection.forall_of_insert h.nodes hnode hinsert
      distinct_nodes := nodes.nodup }
  | parameter p =>
    obtain ⟨parameters, hinsert, hnext⟩ := bind_eq_ok_iff.mp hadd
    cases hnext
    obtain ⟨hvalid, hfinite⟩ := Entity.Loaded.valid_and_finite (a := p) hloaded
    have hparameter := Parameter.wellFormed_of_valid hvalid hfinite
    exact { h with
      parameters := Collection.forall_of_insert h.parameters hparameter hinsert
      distinct_parameters := parameters.nodup }
  | recorder recorder =>
    obtain ⟨recorders, -, hnext⟩ := bind_eq_ok_iff.mp hadd
    cases hnext
    exact { h with distinct_recorders := recorders.nodup }
  | table table =>
    obtain ⟨tables, -, hnext⟩ := bind_eq_ok_iff.mp hadd
    cases hnext
    exact { h with distinct_tables := tables.nodup }
  | output output =>
    obtain ⟨outputs, -, hnext⟩ := bind_eq_ok_iff.mp hadd
    cases hnext
    exact { h with distinct_outputs := outputs.nodup }

/-- Loaded entries that are inserted later have passed the same checks. The induction is on the
additions. -/
theorem WellFormed.after {model : Model} {additions : List Addition} (h : model.WellFormed)
    (hloaded : ∀ addition ∈ additions, addition.Loaded) : (model.after additions).WellFormed := by
  -- by induction on the additions: what one of them leaves is well-formed, also when it fails
  induction additions generalizing model with
  | nil => exact h
  | cons addition rest ih =>
    obtain ⟨hfirst, hrest⟩ := List.forall_mem_cons.mp hloaded
    have hnext : ((model.add addition).toOption.getD model).WellFormed := by
      cases hadd : model.add addition with
      | error e => exact h
      | ok next => exact h.add hfirst hadd
    exact ih hnext hrest

/-- A loaded model is well-formed, and stays so whatever loaded entries are added to it later,
whether or not each of these additions succeeds. -/
theorem stays_wellFormed_of_load? {strictness : Strictness} {document : Document} {model : Model}
    (hproper : document.Proper) (h : load? strictness document = .ok model) :
    model.WellFormed ∧ ∀ additions : List Addition,
      (∀ addition ∈ additions, addition.Loaded) → (model.after additions).WellFormed := by
  have hwellFormed := wellFormed_of_load? hproper h
  exact ⟨hwellFormed, fun additions hloaded => hwellFormed.after hloaded⟩

/-- A barrage that holds back a basin, with the limits of both written out. -/
def barrage : Document :=
  .mapping [
    ("timestepper", .mapping [("start", .text "2023-01-01"), ("end", .text "2023-12-31"),
      ("timestep", .number (.integer 7))]),
    ("nodes", .sequence [
      .mapping [("type", .text "Storage"), ("name", .text "basin"),
        ("initial_volume", .number (.integer 4)), ("min_volume", .number (.integer 1)),
        ("max_volume", .number (.integer 9))],
      .mapping [("type", .text "PiecewiseLink"), ("name", .text "gates"),
        ("steps", .sequence [.mapping []])],
      .mapping [("type", .text "Aggregated"), ("name", .text "release"),
        ("nodes", .sequence [.text "gates"]), ("factors", .sequence [.number (.integer 1)])]]),
    ("parameters", .sequence [
      .mapping [("type", .text "DataFrame"), ("name", .text "tide"), ("table", .text "gauge"),
        ("column", .text "level")]])]

/-- Two more basins, the first of which has the name of the one that is there. -/
def moreBasins : List Document := [
  .mapping [("type", .text "Storage"), ("name", .text "basin"), ("surface", .null)],
  .mapping [("type", .text "Storage"), ("name", .text "forebay"),
    ("initial_volume", .number (.integer 4))]]

theorem proper_barrage : barrage.Proper ∧ ∀ document ∈ moreBasins, document.Proper := by
  have hnumbers : ∀ n ∈ [1, 4, 7, 9], (Numeral.integer n).toFloat.isFinite = true := by
    decide +kernel
  simp only [List.forall_mem_cons] at hnumbers
  simp [barrage, moreBasins, Fields.keys, hnumbers, Document.Proper.null]

theorem stays_wellFormed_of_load?_barrage :
    ∃ (model : Model) (basins : Collection Node), barrage.Proper ∧
      load? .strict barrage = .ok model ∧
      Load.result (Collection.load .permissive moreBasins) = .ok basins ∧
      model.WellFormed ∧ (model.after (basins.entities.map .node)).WellFormed ∧
      (model.after (basins.entities.map .node)).nodes.names =
        ["basin", "gates", "release", "forebay"] := by
  have hadded : ((load? .strict barrage).toOption.bind fun model =>
      (Load.result (Collection.load (α := Node) .permissive moreBasins)).toOption.map fun basins =>
        (model.after (basins.entities.map .node)).nodes.names) =
          some ["basin", "gates", "release", "forebay"] := by decide +kernel
  obtain ⟨model, hload, hadded⟩ := bind_toOption_eq_some_iff.mp hadded
  obtain ⟨basins, hbasins, hnames⟩ := map_toOption_eq_some_iff.mp hadded
  have hstays := stays_wellFormed_of_load? proper_barrage.1 hload
  refine ⟨model, basins, proper_barrage.1, hload, hbasins, hstays.1, hstays.2 _ ?_, hnames⟩
  intro addition haddition
  obtain ⟨basin, hbasin, rfl⟩ := List.mem_map.mp haddition
  exact ⟨.permissive, moreBasins, basins, proper_barrage.2, hbasins, hbasin⟩

end Model

end FlowPlan
