import FlowPlan.Yaml.Node
import FlowPlan.Yaml.Scalar
import FlowPlan.Yaml.Tokens

namespace FlowPlan.Yaml

def maxDepth : Nat :=
  128

abbrev Reading :=
  StateT Nat Option

abbrev Targets := List (Nat × Node)

/-- The node that an alias stands for; any other node stands for itself. -/
def follow (targets : Targets) : Node → Reading Node
  | .reference number => do
    match ← get with
    | 0 => failure
    | left + 1 =>
      set left
      liftM (targets.lookup number)
  | node => return node

/-- A collection with a refused tag has no document. Other tags say nothing about it. -/
def checkTag (properties : Properties) : Reading Unit :=
  if properties.tag.any Scalar.isRefused then failure else return ()

def readKey (targets : Targets) (node : Node) : Reading String := do
  match ← follow targets node with
  | .scalar _ _ text => return text
  | _ => failure

/-- The document of a node, with less than `depth` collections inside of each other. -/
def readNode (targets : Targets) : Nat → Node → Reading Document
  | 0, _ => failure
  | depth + 1, node => do
    match ← follow targets node with
    | .reference _ => failure
    | .scalar properties plain text =>
      match properties.tag with
      | some tag => liftM (Scalar.tagged? tag plain text)
      -- only a plain scalar can be anything but text
      | none => if plain then liftM (Scalar.plain? text) else return .text text
    | .sequence properties items =>
      checkTag properties
      if depth = 0 then failure
      return .sequence (← items.mapM (readNode targets depth))
    | .mapping properties entries =>
      checkTag properties
      if depth = 0 then failure
      let entries ← entries.mapM fun (key, value) => do
        return (← readKey targets key, ← readNode targets depth value)
      return .mapping (Fields.ofEntries entries)

/-- Reads a text that holds one document. An empty text is null. -/
def read? (text : String) : Option Document := do
  let node ← Node.ofTokens? (← tokens? text)
  let (document, _) ← (readNode node.anchored (maxDepth + 1) node).run (100 * node.size)
  return document

end FlowPlan.Yaml
