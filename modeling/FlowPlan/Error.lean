import FlowPlan.Engine.Basic
import FlowPlan.Section
import FlowPlan.Json.Number

namespace FlowPlan

inductive BuildPhase where
  | nodes
  | edges
  | parameters
  | recorders
  | outputs
  | constraints
  | run
deriving DecidableEq

namespace BuildPhase

def phrase : BuildPhase → String
  | .nodes => "node creation"
  | .edges => "edge creation"
  | .parameters => "parameter resolution"
  | .recorders => "recorder creation"
  | .outputs => "output creation"
  | .constraints => "constraint application"
  | .run => "run"

end BuildPhase

/-- What is invalid about an entry or a section of a model. -/
inductive Invalidity where
  | unknownFields (fields : List String)
  /-- The document is no mapping. -/
  | notAMapping (found : Shape)
  /-- An entry of a section is no mapping. -/
  | entryNotAMapping (index : Nat) (found : Shape)
  | typeNotText (found : Shape)
  | field (mismatch : Mismatch)
  /-- An entry without a name has a wrong field. -/
  | entryField (index : Nat) (mismatch : Mismatch)
  | required (key : String)
  | notASequence (found : Shape)
  | scheduleNotAMapping
  | timestepZero
  | endBeforeStart (start stop : Date)
  | initialVolumeNegative (volume : Float)
  | initialVolumeAboveMaximum (volume maximum : Float)
  | minimumVolumeAboveMaximum (minimum maximum : Float)
  | noMembers
  | factorCount (factors nodes : Nat)
  | factorNotPositive (factor : Float)
  | noSteps
  | nothingToAggregate
  | monthCount (found : Nat)
  | curveValueCount (curves found : Nat)
  | minimumAboveMaximum (minimum maximum : Float)
  | noDataSource
  | twoDataSources

namespace Invalidity

def message : Invalidity → String
  | .unknownFields fields => "unknown field(s): " ++ ", ".intercalate fields
  | .notAMapping found => "expected a mapping, found " ++ found.phrase
  | .entryNotAMapping index found =>
    "entry " ++ toString index ++ " must be a mapping, found " ++ found.phrase
  | .typeNotText found => "\"type\" must be a string, found " ++ found.phrase
  | .field mismatch => mismatch.message
  | .entryField index mismatch => "entry " ++ toString index ++ ": " ++ mismatch.message
  | .required key => "\"" ++ key ++ "\" is required"
  | .notASequence found => "expected a sequence, found " ++ found.phrase
  | .scheduleNotAMapping => "expected a mapping with start, end and timestep"
  | .timestepZero => "timestep must be at least one day"
  | .endBeforeStart start stop =>
    "end (" ++ stop.text ++ ") is before start (" ++ start.text ++ ")"
  | .initialVolumeNegative volume =>
    "initial_volume must be non-negative, got " ++ plain volume
  | .initialVolumeAboveMaximum volume maximum =>
    "initial_volume (" ++ plain volume ++ ") exceeds max_volume (" ++ plain maximum ++ ")"
  | .minimumVolumeAboveMaximum minimum maximum =>
    "min_volume (" ++ plain minimum ++ ") exceeds max_volume (" ++ plain maximum ++ ")"
  | .noMembers => "an aggregated node needs at least one member node"
  | .factorCount factors nodes =>
    toString factors ++ " factor(s) given for " ++ toString nodes ++ " node(s)"
  | .factorNotPositive factor => "factors must be positive, got " ++ plain factor
  | .noSteps => "a piecewise link needs at least one step"
  | .nothingToAggregate => "at least one value must be aggregated"
  | .monthCount found => "expected 12 monthly values, found " ++ toString found
  | .curveValueCount curves found =>
    toString curves ++ " control curve(s) need " ++ toString (curves + 1) ++
      " value pairs, found " ++ toString found
  | .minimumAboveMaximum minimum maximum =>
    "minimum (" ++ plain minimum ++ ") exceeds maximum (" ++ plain maximum ++ ")"
  | .noDataSource => "one of url or table is required"
  | .twoDataSources => "url and table cannot both be given"
where
  /-- Numbers in these messages have no exponent. -/
  plain : Float → String :=
    Decimal.Layout.plain.text

end Invalidity

inductive ReadFailure where
  | notFound
  | isADirectory
  | notADirectory
  /-- The bytes are not UTF-8. -/
  | invalidData
  | other (reason : String)
deriving DecidableEq

namespace ReadFailure

def message : ReadFailure → String
  | .notFound => "No such file or directory (os error 2)"
  | .isADirectory => "Is a directory (os error 21)"
  | .notADirectory => "Not a directory (os error 20)"
  | .invalidData => "stream did not contain valid UTF-8"
  | .other reason => reason

end ReadFailure

inductive ModelError where
  | unknownType (sect : Section) (name : String) (known : List String)
  | missingType (sect : Section) (index : Nat)
  | invalid (sect : Section) (entity : Option String) (details : Invalidity)
  | duplicateName (sect : Section) (name : String)
  | notFound (sect : Section) (name : String)
  /-- Parameters that cannot be created although every name they read is declared. -/
  | cyclicDependency (parameters : List String)
  /-- `parameters` lead to the undeclared names in `missing`; `cyclic` are stuck without. -/
  | unresolvedReference (parameters missing cyclic : List String)
  | unsupportedFileType (extension path : String)
  | engine (phase : BuildPhase) (entity : String) (source : EngineError)
  | unreadable (path : String) (failure : ReadFailure)
  | notJson (fault : Json.Fault)
  /-- The attributes of a component are no mapping. -/
  | attributesNotAMapping
  | notYaml
  | notSettings

namespace ModelError

def section? : ModelError → Option Section
  | .unknownType sect _ _ => some sect
  | .missingType sect _ => some sect
  | .invalid sect _ _ => some sect
  | .duplicateName sect _ => some sect
  | .notFound sect _ => some sect
  | .cyclicDependency _ => some .parameters
  | .unresolvedReference _ _ _ => some .parameters
  | _ => none

def message : ModelError → String
  | .unknownType sect name known =>
    "Unknown " ++ sect.key ++ " type \"" ++ name ++ "\". Registered types: " ++ listed known
  | .missingType sect index =>
    "Entry " ++ toString index ++ " in " ++ sect.key ++ " has no \"type\" key"
  | .invalid sect entity details =>
    "Invalid " ++ sect.key ++ " entry" ++
      (match entity with
        | some name => " \"" ++ name ++ "\""
        | none => "") ++
      ": " ++ details.message
  | .duplicateName sect name => sect.key ++ " name \"" ++ name ++ "\" is already defined"
  | .notFound sect name => "No entry named \"" ++ name ++ "\" in " ++ sect.key
  | .cyclicDependency parameters =>
    "Failed to load parameters due to a cycle in the dependency tree. Unresolved parameters: " ++
      listed parameters
  | .unresolvedReference parameters missing cyclic =>
    "Failed to load parameters " ++ listed parameters ++
      " because they reference undefined parameters: " ++ listed missing ++
      (if cyclic.isEmpty then "" else ". Parameters in a dependency cycle: " ++ listed cyclic)
  | .unsupportedFileType extension path =>
    "Filetype \"" ++ extension ++ "\" not supported (" ++ path ++ ")"
  | .engine phase entity source =>
    "Engine rejected " ++ entity ++ " during " ++ phase.phrase ++ ": " ++ source.message
  | .unreadable path failure => "Failed to read " ++ path ++ ": " ++ failure.message
  | .notJson .truncated => "Invalid JSON document: the text ended too early"
  | .notJson .malformed => "Invalid JSON document: malformed text"
  | .attributesNotAMapping =>
    "Invalid JSON document: component attributes must serialise to a mapping"
  | .notYaml => "Invalid YAML document: malformed text"
  | .notSettings => "Invalid settings: malformed text or unknown setting"
where
  listed : List String → String :=
    ", ".intercalate

end ModelError

end FlowPlan
