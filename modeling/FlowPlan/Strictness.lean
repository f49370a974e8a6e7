import FlowPlan.Error
import FlowPlan.Log

namespace FlowPlan

abbrev Load :=
  ExceptT ModelError Logged

inductive Strictness where
  /-- Unknown keys are refused. -/
  | strict
  /-- Unknown keys are logged and passed over. -/
  | permissive
deriving DecidableEq

namespace Strictness

def label : Strictness → String
  | .strict => "strict"
  | .permissive => "permissive"

def checkUnknown (strictness : Strictness) (sect : Section) (entity : Option String)
    (unknown : List String) : Load Unit :=
  if unknown.isEmpty then pure ()
  else
    match strictness with
    | .strict => throw (.invalid sect entity (.unknownFields unknown))
    | .permissive =>
      Logged.note .warn ("Ignoring unknown field(s) " ++ ", ".intercalate unknown ++ " in " ++
        sect.key ++
        (match entity with
          | some name => " entry \"" ++ name ++ "\""
          | none => ""))

end Strictness

end FlowPlan
