import FlowPlan.Entity
import FlowPlan.Node.Basic

namespace FlowPlan

namespace FlowNode

def schema : Schema FlowNode :=
  FlowNode.mk <$> .required "name" Reader.text <*> .optional "comment" Reader.text
    <*> .optional "cost" Quantity.read <*> .optional "min_flow" Quantity.read
    <*> .optional "max_flow" Quantity.read

def fields (node : FlowNode) : Fields := [
  ("name", .text node.name),
  ("comment", .optional .text node.comment),
  ("cost", .optional Quantity.toDocument node.cost),
  ("min_flow", .optional Quantity.toDocument node.minFlow),
  ("max_flow", .optional Quantity.toDocument node.maxFlow)]

end FlowNode

namespace StorageNode

def schema : Schema StorageNode :=
  StorageNode.mk <$> .required "name" Reader.text <*> .optional "comment" Reader.text
    <*> .optional "cost" Quantity.read <*> .defaulted "initial_volume" 0 Reader.number
    <*> .optional "min_volume" Quantity.read <*> .optional "max_volume" Quantity.read

def fields (node : StorageNode) : Fields := [
  ("name", .text node.name),
  ("comment", .optional .text node.comment),
  ("cost", .optional Quantity.toDocument node.cost),
  ("initial_volume", .real node.initialVolume),
  ("min_volume", .optional Quantity.toDocument node.minVolume),
  ("max_volume", .optional Quantity.toDocument node.maxVolume)]

/-- Volumes are compared where they are written out; those of parameters are left to the engine. -/
def invalidity? (node : StorageNode) : Option Invalidity :=
  if node.initialVolume.isNaN ∨ node.initialVolume < 0 then
    some (.initialVolumeNegative node.initialVolume)
  else
    match node.maxVolume.bind Quantity.constant? with
    | none => none
    | some maximum =>
      if node.initialVolume > maximum then
        some (.initialVolumeAboveMaximum node.initialVolume maximum)
      else
        match node.minVolume.bind Quantity.constant? with
        | none => none
        | some minimum =>
          if minimum > maximum then some (.minimumVolumeAboveMaximum minimum maximum) else none

end StorageNode

namespace CatchmentNode

def schema : Schema CatchmentNode :=
  CatchmentNode.mk <$> .required "name" Reader.text <*> .optional "comment" Reader.text
    <*> .optional "cost" Quantity.read <*> .optional "flow" Quantity.read

def fields (node : CatchmentNode) : Fields := [
  ("name", .text node.name),
  ("comment", .optional .text node.comment),
  ("cost", .optional Quantity.toDocument node.cost),
  ("flow", .optional Quantity.toDocument node.flow)]

end CatchmentNode

namespace AggregatedNode

def schema : Schema AggregatedNode :=
  AggregatedNode.mk <$> .required "name" Reader.text <*> .optional "comment" Reader.text
    <*> .required "nodes" (Reader.listOf Reader.text)
    <*> .optional "factors" (Reader.listOf Reader.number)
    <*> .optional "min_flow" Quantity.read <*> .optional "max_flow" Quantity.read

def fields (node : AggregatedNode) : Fields := [
  ("name", .text node.name),
  ("comment", .optional .text node.comment),
  ("nodes", .texts node.members),
  ("factors", .optional (fun factors => .sequence (factors.map .real)) node.factors),
  ("min_flow", .optional Quantity.toDocument node.minFlow),
  ("max_flow", .optional Quantity.toDocument node.maxFlow)]

/-- A group has members, and its factors are positive numbers, one for each of them. -/
def invalidity? (node : AggregatedNode) : Option Invalidity :=
  if node.members.isEmpty then some .noMembers
  else
    match node.factors with
    | none => none
    | some factors =>
      if factors.length ≠ node.members.length then
        some (.factorCount factors.length node.members.length)
      else (factors.find? fun x => !x.isFinite || x ≤ 0).map .factorNotPositive

end AggregatedNode

namespace PiecewiseStep

def schema : Schema PiecewiseStep :=
  PiecewiseStep.mk <$> .optional "cost" Quantity.read <*> .optional "max_flow" Quantity.read

def read : Reader PiecewiseStep
  | .mapping fields => schema.read fields
  | document => do
    let (cost, maxFlow) ←
      Reader.pairOf .step (Reader.orNull Quantity.read) (Reader.orNull Quantity.read) document
    return { cost, maxFlow }

def toDocument (step : PiecewiseStep) : Document :=
  .mapping [
    ("cost", .optional Quantity.toDocument step.cost),
    ("max_flow", .optional Quantity.toDocument step.maxFlow)]

end PiecewiseStep

namespace PiecewiseLink

def schema : Schema PiecewiseLink :=
  PiecewiseLink.mk <$> .required "name" Reader.text <*> .optional "comment" Reader.text
    <*> .required "steps" (Reader.listOf PiecewiseStep.read)

def fields (link : PiecewiseLink) : Fields := [
  ("name", .text link.name),
  ("comment", .optional .text link.comment),
  ("steps", .sequence (link.steps.map PiecewiseStep.toDocument))]

end PiecewiseLink

namespace Node

def typeName : Node → String
  | input _ => "Input"
  | link _ => "Link"
  | output _ => "Output"
  | storage _ => "Storage"
  | catchment _ => "Catchment"
  | aggregated _ => "Aggregated"
  | piecewiseLink _ => "PiecewiseLink"

def tag : Node → String
  | input _ => "Input"
  | link _ => "Link"
  | output _ => "Output"
  | storage _ => "Storage"
  | catchment _ => "Catchment"
  | aggregated _ => "Aggregated"
  | piecewiseLink _ => "PiecewiseLink"

def registry : Registry (Schema Node) :=
  .ofList .nodes [
    ("Input", input <$> FlowNode.schema),
    ("Link", link <$> FlowNode.schema),
    ("Output", output <$> FlowNode.schema),
    ("Storage", storage <$> StorageNode.schema),
    ("Catchment", catchment <$> CatchmentNode.schema),
    ("Aggregated", aggregated <$> AggregatedNode.schema),
    ("PiecewiseLink", piecewiseLink <$> PiecewiseLink.schema)]

def fields : Node → Fields
  | input node => node.fields
  | link node => node.fields
  | output node => node.fields
  | storage node => node.fields
  | catchment node => node.fields
  | aggregated node => node.fields
  | piecewiseLink node => node.fields

def invalidity? : Node → Option Invalidity
  | storage node => node.invalidity?
  | aggregated node => node.invalidity?
  | piecewiseLink node => if node.steps.isEmpty then some .noSteps else none
  | _ => none

instance : Entity Node where
  sect := .nodes
  name := name
  typeName := typeName
  tag := tag
  registry := registry
  fields := fields
  invalidity? := invalidity?

end Node

end FlowPlan
