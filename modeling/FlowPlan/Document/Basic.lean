import FlowPlan.Decimal.Layout

namespace FlowPlan

/-- A number as a document holds it: exact integers and doubles are told apart. -/
inductive Numeral where
  | integer (value : Int)
  | real (value : Float)

namespace Numeral

def toFloat : Numeral → Float
  | .integer n => Float.ofInt n
  | .real x => x

end Numeral

inductive Document where
  | null
  | boolean (value : Bool)
  | number (value : Numeral)
  | text (value : String)
  | sequence (items : List Document)
  | mapping (fields : List (String × Document))

abbrev Fields := List (String × Document)

namespace Fields

def value? (key : String) (fields : Fields) : Option Document :=
  fields.lookup key

def keys (fields : Fields) : List String :=
  fields.map (·.1)

/-- Writes `value` under `key`: in place when the key is present, at the end otherwise. -/
def put (key : String) (value : Document) : Fields → Fields
  | [] => [(key, value)]
  | entry :: rest =>
    if entry.1 = key then (key, value) :: rest else entry :: put key value rest

/-- Takes `key` out of a mapping. The last entry moves into the gap. -/
def takeOut (key : String) : Fields → Fields
  | [] => []
  | entry :: rest =>
    if entry.1 = key then
      match rest.getLast? with
      | none => []
      | some last => last :: rest.dropLast
    else entry :: takeOut key rest

/-- The keys of a mapping that are not found in the document which is written for it. -/
def leftOver (emitted : Document) (fields : Fields) : List String :=
  match emitted with
  | .mapping known => fields.keys.filter fun key => !(Fields.keys known).contains key
  | _ => fields.keys

/-- The mapping of entries in which a key may repeat: the last value wins, at the first position. -/
def ofEntries (entries : List (String × Document)) : Fields :=
  entries.foldl (fun fields entry => fields.put entry.1 entry.2) []

end Fields

inductive Shape where
  | null
  | boolean
  | number
  | text
  | sequence
  | mapping
deriving DecidableEq

namespace Shape

def phrase : Shape → String
  | .null => "null"
  | .boolean => "a boolean"
  | .number => "a number"
  | .text => "a string"
  | .sequence => "a sequence"
  | .mapping => "a mapping"

end Shape

namespace Document

def shape : Document → Shape
  | .null => .null
  | .boolean _ => .boolean
  | .number _ => .number
  | .text _ => .text
  | .sequence _ => .sequence
  | .mapping _ => .mapping

def takeOut (key : String) : Document → Document
  | .mapping fields => .mapping (Fields.takeOut key fields)
  | other => other

def real (x : Float) : Document :=
  .number (.real x)

def optional {α : Type} (write : α → Document) : Option α → Document
  | none => .null
  | some a => write a

def texts (names : List String) : Document :=
  .sequence (names.map .text)

mutual

def finite : Document → Document
  | .number (.real x) => if x.isFinite then .number (.real x) else .null
  | .sequence items => .sequence (finiteItems items)
  | .mapping fields => .mapping (finiteFields fields)
  | other => other

def finiteItems : List Document → List Document
  | [] => []
  | item :: rest => item.finite :: finiteItems rest

def finiteFields : List (String × Document) → List (String × Document)
  | [] => []
  | (key, value) :: rest => (key, value.finite) :: finiteFields rest

end

end Document

end FlowPlan
