import FlowPlan.Component
import FlowPlan.Parameter.Basic

namespace FlowPlan

namespace Aggregation

def label : Aggregation → String
  | .sum => "sum"
  | .product => "product"
  | .mean => "mean"
  | .min => "min"
  | .max => "max"

def read : Reader Aggregation :=
  Reader.choice [("sum", .sum), ("product", .product), ("mean", .mean), ("min", .min),
    ("max", .max)]

end Aggregation

namespace Predicate

def label : Predicate → String
  | .less => "LT"
  | .greater => "GT"
  | .lessOrEqual => "LE"
  | .greaterOrEqual => "GE"
  | .equal => "EQ"

def read : Reader Predicate :=
  Reader.choice [("LT", .less), ("lt", .less), ("GT", .greater), ("gt", .greater),
    ("LE", .lessOrEqual), ("le", .lessOrEqual), ("GE", .greaterOrEqual), ("ge", .greaterOrEqual),
    ("EQ", .equal), ("eq", .equal)]

end Predicate

def Document.reals (values : List Float) : Document :=
  .sequence (values.map .real)

namespace Parameter

def constantSchema : Schema ConstantParameter :=
  ConstantParameter.mk <$> .required "name" Reader.text <*> .optional "comment" Reader.text
    <*> .required "value" Reader.number

def aggregatedSchema : Schema AggregatedParameter :=
  AggregatedParameter.mk <$> .required "name" Reader.text <*> .optional "comment" Reader.text
    <*> .required "agg_func" Aggregation.read
    <*> .required "parameters" (Reader.listOf Quantity.read)

def negativeSchema : Schema NegativeParameter :=
  NegativeParameter.mk <$> .required "name" Reader.text <*> .optional "comment" Reader.text
    <*> .required "parameter" Quantity.read

def maxSchema : Schema MaxParameter :=
  MaxParameter.mk <$> .required "name" Reader.text <*> .optional "comment" Reader.text
    <*> .required "parameter" Quantity.read <*> .defaulted "threshold" 0 Reader.number

def polynomialSchema : Schema PolynomialParameter :=
  PolynomialParameter.mk <$> .required "name" Reader.text <*> .optional "comment" Reader.text
    <*> .required "parameter" Quantity.read
    <*> .required "coefficients" (Reader.listOf Reader.number)

def monthlyProfileSchema : Schema MonthlyProfileParameter :=
  MonthlyProfileParameter.mk <$> .required "name" Reader.text <*> .optional "comment" Reader.text
    <*> .required "values" (Reader.listOf Reader.number)

def controlCurveIndexSchema : Schema ControlCurveIndexParameter :=
  ControlCurveIndexParameter.mk <$> .required "name" Reader.text
    <*> .optional "comment" Reader.text <*> .required "storage_node" Reader.text
    <*> .required "control_curves" (Reader.listOf Quantity.read)

def controlCurveInterpolatedSchema : Schema ControlCurveInterpolatedParameter :=
  ControlCurveInterpolatedParameter.mk <$> .required "name" Reader.text
    <*> .optional "comment" Reader.text <*> .required "storage_node" Reader.text
    <*> .required "control_curves" (Reader.listOf Quantity.read)
    <*> .required "values" (Reader.listOf (Reader.pairOf .pair Reader.number Reader.number))
    <*> .optional "minimum" Reader.number <*> .optional "maximum" Reader.number

def thresholdSchema : Schema ThresholdParameter :=
  ThresholdParameter.mk <$> .required "name" Reader.text <*> .optional "comment" Reader.text
    <*> .required "parameter" Quantity.read <*> .required "threshold" Quantity.read
    <*> .required "predicate" Predicate.read

def dataFrameSchema : Schema DataFrameParameter :=
  DataFrameParameter.mk <$> .required "name" Reader.text <*> .optional "comment" Reader.text
    <*> .optional "url" Reader.path <*> .optional "table" Reader.text
    <*> .required "column" Reader.text

def registry : Registry (Schema Parameter) :=
  .ofList .parameters [
    ("Constant", constant <$> constantSchema),
    ("Aggregated", aggregated <$> aggregatedSchema),
    ("Negative", negative <$> negativeSchema),
    ("Max", max <$> maxSchema),
    ("Polynomial1D", polynomial <$> polynomialSchema),
    ("MonthlyProfile", monthlyProfile <$> monthlyProfileSchema),
    ("ControlCurveIndex", controlCurveIndex <$> controlCurveIndexSchema),
    ("ControlCurvePiecewiseInterpolated",
      controlCurveInterpolated <$> controlCurveInterpolatedSchema),
    ("ParameterThreshold", threshold <$> thresholdSchema),
    ("DataFrame", dataFrame <$> dataFrameSchema)]

def typeName : Parameter → String
  | constant _ => "Constant"
  | aggregated _ => "Aggregated"
  | negative _ => "Negative"
  | max _ => "Max"
  | polynomial _ => "Polynomial1D"
  | monthlyProfile _ => "MonthlyProfile"
  | controlCurveIndex _ => "ControlCurveIndex"
  | controlCurveInterpolated _ => "ControlCurvePiecewiseInterpolated"
  | threshold _ => "ParameterThreshold"
  | dataFrame _ => "DataFrame"

def tag : Parameter → String
  | constant _ => "Constant"
  | aggregated _ => "Aggregated"
  | negative _ => "Negative"
  | max _ => "Max"
  | polynomial _ => "Polynomial1D"
  | monthlyProfile _ => "MonthlyProfile"
  | controlCurveIndex _ => "ControlCurveIndex"
  | controlCurveInterpolated _ => "ControlCurvePiecewiseInterpolated"
  | threshold _ => "ParameterThreshold"
  | dataFrame _ => "DataFrame"

/-- The fields that the types do not share. -/
def ownFields : Parameter → Fields
  | constant p => [("value", .real p.value)]
  | aggregated p => [
    ("agg_func", .text p.aggregation.label),
    ("parameters", .sequence (p.parameters.map Quantity.toDocument))]
  | negative p => [("parameter", p.parameter.toDocument)]
  | max p => [("parameter", p.parameter.toDocument), ("threshold", .real p.threshold)]
  | polynomial p => [
    ("parameter", p.parameter.toDocument),
    ("coefficients", .reals p.coefficients)]
  | monthlyProfile p => [("values", .reals p.values)]
  | controlCurveIndex p => [
    ("storage_node", .text p.storageNode),
    ("control_curves", .sequence (p.controlCurves.map Quantity.toDocument))]
  | controlCurveInterpolated p => [
    ("storage_node", .text p.storageNode),
    ("control_curves", .sequence (p.controlCurves.map Quantity.toDocument)),
    ("values", .sequence (p.values.map fun pair => .reals [pair.1, pair.2])),
    ("minimum", .optional .real p.minimum),
    ("maximum", .optional .real p.maximum)]
  | threshold p => [
    ("parameter", p.parameter.toDocument),
    ("threshold", p.threshold.toDocument),
    ("predicate", .text p.predicate.label)]
  | dataFrame p => [
    ("url", .optional .text p.url),
    ("table", .optional .text p.table),
    ("column", .text p.column)]

def fields (p : Parameter) : Fields :=
  ("name", .text p.name) :: ("comment", .optional .text p.comment) :: p.ownFields

/-- There is one more pair of values than there are curves, and the limits are in order. -/
def interpolationInvalidity? (p : ControlCurveInterpolatedParameter) : Option Invalidity :=
  if p.values.length ≠ p.controlCurves.length + 1 then
    some (.curveValueCount p.controlCurves.length p.values.length)
  else
    match p.minimum, p.maximum with
    | some minimum, some maximum =>
      if minimum > maximum then some (.minimumAboveMaximum minimum maximum) else none
    | _, _ => none

def invalidity? : Parameter → Option Invalidity
  | aggregated p => if p.parameters.isEmpty then some .nothingToAggregate else none
  | monthlyProfile p => if p.values.length ≠ 12 then some (.monthCount p.values.length) else none
  | controlCurveInterpolated p => interpolationInvalidity? p
  | dataFrame p =>
    match p.url, p.table with
    | none, none => some .noDataSource
    | some _, some _ => some .twoDataSources
    | _, _ => none
  | _ => none

instance : Entity Parameter where
  sect := .parameters
  name := name
  typeName := typeName
  tag := tag
  registry := registry
  fields := fields
  invalidity? := invalidity?

/-- The data file of a data frame. A table has to be declared. -/
def dataFile (context : SpecContext) (p : DataFrameParameter) : Except ModelError String :=
  match p.url, p.table with
  | some url, _ => .ok (context.resolvePath url)
  | none, some table => do
    return context.resolvePath (← context.tables.get table).url
  | none, none => .error (.invalid .parameters (some p.name) .noDataSource)

def files (context : SpecContext) : Parameter → Except ModelError (List String)
  | dataFrame p => do return [← dataFile context p]
  | _ => .ok []

def spec (context : SpecContext) (p : Parameter) : Except ModelError ComponentSpec := do
  let files ← p.files context
  return { ComponentSpec.ofEntity p with
    parameterReferences := p.parameterReferences
    nodeReferences := p.nodeReferences
    files := files }

end Parameter

end FlowPlan
