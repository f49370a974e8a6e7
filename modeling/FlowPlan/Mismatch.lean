import FlowPlan.Date.Text
import FlowPlan.Json.Printer
import FlowPlan.Text.Quoted

namespace FlowPlan

inductive Wanted where
  | text
  | number
  | count
  | sequence
  | path
  | date
  | choice
  | nothing
  | pair
  | step

namespace Wanted

def phrase : Wanted → String
  | .text => "a string"
  | .number => "f64"
  | .count => "u32"
  | .sequence => "a sequence"
  | .path => "path string"
  | .date => "a formatted date string"
  | .choice => "string or map"
  | .nothing => "unit"
  | .pair => "an array of length 2"
  | .step => "struct PiecewiseLinkStep"

end Wanted

inductive Mismatch where
  | wrongType (found : Document) (wanted : Wanted)
  | outOfRange (found : Int)
  | tooShort (length : Nat) (wanted : Wanted)
  | tooLong (length : Nat)
  | unknownChoice (found : String) (choices : List String)
  | severalChoices
  | notQuantity
  | badDate (fault : Date.Fault)
  | missing (field : String)

namespace Mismatch

def describe : Document → String
  | .null => "null"
  | .boolean b => "boolean `" ++ (if b then "true" else "false") ++ "`"
  | .number (.integer n) => "integer `" ++ toString n ++ "`"
  | .number (.real x) => "floating point `" ++ Json.numberLayout.text x ++ "`"
  | .text s => "string " ++ Text.quoted s
  | .sequence _ => "sequence"
  | .mapping _ => "map"

def wantedLength : Wanted → String
  | .step => "struct PiecewiseLinkStep with 2 elements"
  | wanted => wanted.phrase

def message : Mismatch → String
  | .wrongType found wanted => "invalid type: " ++ describe found ++ ", expected " ++ wanted.phrase
  | .outOfRange found => "invalid value: integer `" ++ toString found ++ "`, expected u32"
  | .tooShort length wanted =>
    "invalid length " ++ toString length ++ ", expected " ++ wantedLength wanted
  | .tooLong length =>
    "invalid length " ++ toString length ++ ", expected fewer elements in array"
  | .unknownChoice found choices =>
    "unknown variant `" ++ found ++ "`, expected one of " ++
      ", ".intercalate (choices.map fun choice => "`" ++ choice ++ "`")
  | .severalChoices => "invalid value: map, expected map with a single key"
  | .notQuantity => "data did not match any variant of untagged enum ParameterValue"
  | .badDate fault => fault.message
  | .missing field => "missing field `" ++ field ++ "`"

end Mismatch

end FlowPlan
