import FlowPlan.Schema

namespace FlowPlan

inductive Quantity where
  | constant (value : Float)
  | parameter (name : String)
deriving BEq, DecidableEq

namespace Quantity

def parameter? : Quantity → Option String
  | .constant _ => none
  | .parameter name => some name

def constant? : Quantity → Option Float
  | .constant value => some value
  | .parameter _ => none

def phrase : Quantity → String
  | .constant value => Decimal.Layout.plain.text value
  | .parameter name => "parameter \"" ++ name ++ "\""

def read : Reader Quantity
  | .number n => .ok (.constant n.toFloat)
  | .text name => .ok (.parameter name)
  | _ => .error .notQuantity

def toDocument : Quantity → Document
  | .constant value => .real value
  | .parameter name => .text name

/-- The parameters that a list of quantities takes values from, each once, in order of first use. -/
def references (quantities : List Quantity) : List String :=
  (quantities.filterMap parameter?).foldl
    (fun names name => if names.contains name then names else names ++ [name]) []

end Quantity

end FlowPlan
