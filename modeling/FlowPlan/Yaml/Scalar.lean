import FlowPlan.Decimal.Reader
import FlowPlan.Document.Basic
import FlowPlan.Yaml.Token

/-!
What scalars mean. A plain scalar is null, a boolean or a number if it is written like one, and a
text otherwise; a tag can ask for one of these.
-/

namespace FlowPlan.Yaml

namespace Scalar

def isNull (text : String) : Bool :=
  ["null", "Null", "NULL", "~"].contains text

def boolean? (text : String) : Option Bool :=
  if ["true", "True", "TRUE"].contains text then some true
  else if ["false", "False", "FALSE"].contains text then some false
  else none

def dropPlus : List Char → List Char
  | '+' :: rest => rest
  | rest => rest

def dropSign : List Char → List Char
  | '+' :: rest => rest
  | '-' :: rest => rest
  | rest => rest

def isPadded (text : List Char) : Bool :=
  match dropSign text with
  | '0' :: c :: rest => (c :: rest).all Char.isDigit
  | _ => false

def magnitude? : List Char → Option Nat
  | '0' :: 'x' :: digits => Text.number? 16 digits
  | '0' :: 'o' :: digits => Text.number? 8 digits
  | '0' :: 'b' :: digits => Text.number? 2 digits
  | digits => if isPadded digits then none else Text.number? 10 digits

def integer? (text : List Char) : Option Int :=
  match text with
  | '-' :: digits => (magnitude? digits).map fun n => -(n : Int)
  | _ => (magnitude? (dropPlus text)).map fun n => (n : Int)

/-- Reads a real number. Infinity is written `.inf`; a decimal may not come to it. -/
def real? (text : String) : Option Float :=
  if [".inf", ".Inf", ".INF", "+.inf", "+.Inf", "+.INF"].contains text then some (1.0 / 0.0)
  else if ["-.inf", "-.Inf", "-.INF"].contains text then some (-1.0 / 0.0)
  else if [".nan", ".NaN", ".NAN"].contains text then some (0.0 / 0.0)
  else
    match Decimal.read? text.toList with
    | some x => if x.isFinite then some x else none
    | none => none

def isStored (n : Int) : Bool :=
  -0x8000000000000000 ≤ n && n < 0x10000000000000000

def isWide (n : Int) : Bool :=
  -0x80000000000000000000000000000000 ≤ n && n < 0x100000000000000000000000000000000

/-- A document for a real number; what is not finite becomes null. -/
def ofReal (x : Float) : Document :=
  (Document.real x).finite

def nonInteger (text : String) : Document :=
  if isPadded text.toList then .text text
  else
    match real? text with
    | some x => ofReal x
    | none => .text text

/-- What a plain scalar without a tag means. Integers of more than 64 and up to 128 bits are
refused, and larger ones are read as real numbers. -/
def plain? (text : String) : Option Document :=
  if text.isEmpty || isNull text then some .null
  else
    match boolean? text, integer? text.toList with
    | some b, _ => some (.boolean b)
    | none, some n =>
      if isStored n then some (.number (.integer n))
      else if isWide n then none
      else some (nonInteger text)
    | none, none => some (nonInteger text)

def coreTag (name : String) : Octets :=
  octets ("tag:yaml.org,2002:" ++ name)

def isLocal (tag : Octets) : Bool :=
  tag.head? == some '!'.toNat.toUInt8

/-- The tags that a text defines for itself are refused. One whose octets are no text is ignored. -/
def isRefused (tag : Octets) : Bool :=
  isLocal tag && tag.toByteArray.validateUTF8

def tagged? (tag : Octets) (plain : Bool) (text : String) : Option Document :=
  if isRefused tag then none
  else if isLocal tag && plain then plain? text
  else if tag = coreTag "null" then if isNull text then some .null else none
  else if tag = coreTag "bool" then (boolean? text).map .boolean
  else if tag = coreTag "int" then
    match integer? text.toList with
    | some n => if isStored n then some (.number (.integer n)) else none
    | none => none
  else if tag = coreTag "float" then (real? text).map ofReal
  else some (.text text)

end Scalar

end FlowPlan.Yaml
