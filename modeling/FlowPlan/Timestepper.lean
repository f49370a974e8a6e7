import FlowPlan.Strictness

namespace FlowPlan

structure Timestepper where
  start : Date
  stop : Date
  timestep : UInt32
deriving BEq, DecidableEq

namespace Timestepper

def invalidity? (timestepper : Timestepper) : Option Invalidity :=
  if timestepper.timestep = 0 then some .timestepZero
  else if timestepper.stop.Before timestepper.start then
    some (.endBeforeStart timestepper.start timestepper.stop)
  else none

def validate (timestepper : Timestepper) : Except ModelError Unit :=
  match timestepper.invalidity? with
  | some details => .error (.invalid .timestepper none details)
  | none => .ok ()

def new (start stop : Date) (timestep : UInt32) : Except ModelError Timestepper := do
  let timestepper : Timestepper := { start, stop, timestep }
  timestepper.validate
  return timestepper

/-- The number of steps from the first day to the last; none in a schedule that is not valid. -/
def stepCount (timestepper : Timestepper) : Nat :=
  let days := timestepper.stop.dayNumber - timestepper.start.dayNumber
  if days < 0 ∨ timestepper.timestep = 0 then 0
  else days.toNat / timestepper.timestep.toNat + 1

def schema : Schema Timestepper :=
  Timestepper.mk <$> .required "start" Reader.date <*> .required "end" Reader.date
    <*> .required "timestep" Reader.count

def fields (timestepper : Timestepper) : Fields := [
  ("start", .text timestepper.start.text),
  ("end", .text timestepper.stop.text),
  ("timestep", .number (.integer timestepper.timestep.toNat))]

def toDocument (timestepper : Timestepper) : Document :=
  .mapping timestepper.fields

def load (strictness : Strictness) : Document → Load Timestepper
  | .mapping fields =>
    match schema.read fields with
    | .error mismatch => throw (.invalid .timestepper none (.field mismatch))
    | .ok timestepper => do
      strictness.checkUnknown .timestepper none (Fields.leftOver timestepper.toDocument fields)
      timestepper.validate
      return timestepper
  | _ => throw (.invalid .timestepper none .scheduleNotAMapping)

end Timestepper

end FlowPlan
