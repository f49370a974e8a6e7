import FlowPlan.Quantity

namespace FlowPlan

structure ConstantParameter where
  name : String
  comment : Option String
  value : Float
deriving BEq, DecidableEq

inductive Aggregation where
  | sum
  | product
  | mean
  | min
  | max
deriving DecidableEq

structure AggregatedParameter where
  name : String
  comment : Option String
  aggregation : Aggregation
  parameters : List Quantity
deriving BEq, DecidableEq

structure NegativeParameter where
  name : String
  comment : Option String
  parameter : Quantity
deriving BEq, DecidableEq

structure MaxParameter where
  name : String
  comment : Option String
  parameter : Quantity
  threshold : Float
deriving BEq, DecidableEq

structure PolynomialParameter where
  name : String
  comment : Option String
  parameter : Quantity
  coefficients : List Float
deriving BEq, DecidableEq

structure MonthlyProfileParameter where
  name : String
  comment : Option String
  values : List Float
deriving BEq, DecidableEq

structure ControlCurveIndexParameter where
  name : String
  comment : Option String
  storageNode : String
  controlCurves : List Quantity
deriving BEq, DecidableEq

/-- Interpolation within each band of control curves, by the values at its upper and lower edge. -/
structure ControlCurveInterpolatedParameter where
  name : String
  comment : Option String
  storageNode : String
  controlCurves : List Quantity
  values : List (Float × Float)
  minimum : Option Float
  maximum : Option Float
deriving BEq, DecidableEq

inductive Predicate where
  | less
  | greater
  | lessOrEqual
  | greaterOrEqual
  | equal
deriving DecidableEq

structure ThresholdParameter where
  name : String
  comment : Option String
  parameter : Quantity
  threshold : Quantity
  predicate : Predicate
deriving BEq, DecidableEq

structure DataFrameParameter where
  name : String
  comment : Option String
  url : Option String
  table : Option String
  column : String
deriving BEq, DecidableEq

inductive Parameter where
  | constant (parameter : ConstantParameter)
  | aggregated (parameter : AggregatedParameter)
  | negative (parameter : NegativeParameter)
  | max (parameter : MaxParameter)
  | polynomial (parameter : PolynomialParameter)
  | monthlyProfile (parameter : MonthlyProfileParameter)
  | controlCurveIndex (parameter : ControlCurveIndexParameter)
  | controlCurveInterpolated (parameter : ControlCurveInterpolatedParameter)
  | threshold (parameter : ThresholdParameter)
  | dataFrame (parameter : DataFrameParameter)
deriving BEq, DecidableEq

namespace Parameter

def name : Parameter → String
  | constant p => p.name
  | aggregated p => p.name
  | negative p => p.name
  | max p => p.name
  | polynomial p => p.name
  | monthlyProfile p => p.name
  | controlCurveIndex p => p.name
  | controlCurveInterpolated p => p.name
  | threshold p => p.name
  | dataFrame p => p.name

def comment : Parameter → Option String
  | constant p => p.comment
  | aggregated p => p.comment
  | negative p => p.comment
  | max p => p.comment
  | polynomial p => p.comment
  | monthlyProfile p => p.comment
  | controlCurveIndex p => p.comment
  | controlCurveInterpolated p => p.comment
  | threshold p => p.comment
  | dataFrame p => p.comment

def quantities : Parameter → List Quantity
  | constant _ => []
  | aggregated p => p.parameters
  | negative p => [p.parameter]
  | max p => [p.parameter]
  | polynomial p => [p.parameter]
  | monthlyProfile _ => []
  | controlCurveIndex p => p.controlCurves
  | controlCurveInterpolated p => p.controlCurves
  | threshold p => [p.parameter, p.threshold]
  | dataFrame _ => []

def parameterReferences (p : Parameter) : List String :=
  Quantity.references p.quantities

def nodeReferences : Parameter → List String
  | controlCurveIndex p => [p.storageNode]
  | controlCurveInterpolated p => [p.storageNode]
  | _ => []

end Parameter

end FlowPlan
