/-!
The tokens of a YAML text. Indentation appears as explicit starts and ends of blocks, and every key
has its mark, written or not.
-/

namespace FlowPlan.Yaml

abbrev Octets := List UInt8

def octets (text : String) : Octets :=
  text.toUTF8.toList

inductive Token where
  | version (major minor : Nat)
  /-- `handle` in front of a tag stands for `start`. -/
  | shorthand (handle : String) (start : Octets)
  | documentStart
  | documentEnd
  | blockSequence
  | blockMapping
  | blockEnd
  | sequenceOpen
  | sequenceClose
  | mappingOpen
  | mappingClose
  /-- Starts an item of a block sequence. -/
  | item
  | comma
  | key
  | value
  | anchor (number : Nat)
  | reference (number : Nat)
  | tag (handle : String) (rest : Octets)
  | scalar (plain : Bool) (text : String)
  | stop

abbrev Anchors := List (String × Nat)

namespace Anchors

/-- Numbers a new anchor by the count of the names in use before it, its own included. -/
def add (name : String) (anchors : Anchors) : Nat × Anchors :=
  (anchors.length, (name, anchors.length) :: anchors.filter fun entry => entry.1 ≠ name)

end Anchors

end FlowPlan.Yaml
