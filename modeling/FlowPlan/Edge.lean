import FlowPlan.Strictness

namespace FlowPlan

structure Edge where
  source : String
  target : String
deriving DecidableEq

namespace Edge

def label (edge : Edge) : String :=
  edge.source ++ " -> " ++ edge.target

def schema : Schema Edge :=
  Edge.mk <$> .required "from_node" Reader.text <*> .required "to_node" Reader.text

def toDocument (edge : Edge) : Document :=
  .mapping [("from_node", .text edge.source), ("to_node", .text edge.target)]

def load (strictness : Strictness) (index : Nat) : Document → Load Edge
  | .mapping fields =>
    match schema.read fields with
    | .error mismatch => throw (.invalid .edges none (.entryField index mismatch))
    | .ok edge => do
      strictness.checkUnknown .edges (some edge.label) (Fields.leftOver edge.toDocument fields)
      return edge
  | found => throw (.invalid .edges none (.entryNotAMapping index found.shape))

def loadFrom (strictness : Strictness) (index : Nat) : List Document → Load (List Edge)
  | [] => pure []
  | document :: rest => do
    let edge ← load strictness index document
    let edges ← loadFrom strictness (index + 1) rest
    return edge :: edges

end Edge

end FlowPlan
