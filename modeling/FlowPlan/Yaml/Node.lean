import FlowPlan.Yaml.Token

namespace FlowPlan.Yaml

/-- What may stand in front of a node: an anchor's number, and a tag. -/
structure Properties where
  anchor : Option Nat
  tag : Option Octets

def Properties.none : Properties where
  anchor := .none
  tag := .none

inductive Node where
  | reference (number : Nat)
  | scalar (properties : Properties) (plain : Bool) (text : String)
  | sequence (properties : Properties) (items : List Node)
  | mapping (properties : Properties) (entries : List (Node × Node))

namespace Node

def empty : Node :=
  .scalar .none true ""

abbrev Handles := List (String × Octets)

def standardHandles : Handles :=
  [("!", octets "!"), ("!!", octets "tag:yaml.org,2002:")]

/-- The tag that a handle and the text after it mean. Without a handle the text is the tag. -/
def expandTag (handles : Handles) (handle : String) (rest : Octets) : Option Octets :=
  if handle.isEmpty then some rest else (handles.lookup handle).map (· ++ rest)

def readProperties (handles : Handles) : List Token → Option (Properties × List Token)
  | .anchor number :: .tag handle text :: rest => do
    return (⟨some number, some (← expandTag handles handle text)⟩, rest)
  | .tag handle text :: .anchor number :: rest => do
    return (⟨some number, some (← expandTag handles handle text)⟩, rest)
  | .anchor number :: rest => some (⟨some number, none⟩, rest)
  | .tag handle text :: rest => do
    return (⟨none, some (← expandTag handles handle text)⟩, rest)
  | rest => some (.none, rest)

inductive Place where
  /-- In a flow collection. -/
  | flow
  /-- In a block. -/
  | block
  /-- At a key or a value of a block mapping, where a sequence needs no deeper indentation. -/
  | entry
deriving DecidableEq

def endsBlockNode : List Token → Bool
  | .key :: _ => true
  | .value :: _ => true
  | .blockEnd :: _ => true
  | _ => false

def endsItem : List Token → Bool
  | .item :: _ => true
  | .blockEnd :: _ => true
  | _ => false

def endsFlowEntry : List Token → Bool
  | .comma :: _ => true
  | .mappingClose :: _ => true
  | _ => false

def endsFlowItem : List Token → Bool
  | .comma :: _ => true
  | .sequenceClose :: _ => true
  | _ => false

mutual

/-- Reads a node. `fuel` bounds the number of steps. -/
def read (handles : Handles) : Nat → Place → List Token → Option (Node × List Token)
  | 0, _, _ => none
  | _ + 1, _, .reference number :: rest => some (.reference number, rest)
  | fuel + 1, place, tokens => do
    let (properties, rest) ← readProperties handles tokens
    match rest with
    | .scalar plain text :: rest => return (.scalar properties plain text, rest)
    | .sequenceOpen :: rest =>
      let (items, rest) ← readFlowItems handles fuel true rest
      return (.sequence properties items, rest)
    | .mappingOpen :: rest =>
      let (entries, rest) ← readFlowEntries handles fuel true rest
      return (.mapping properties entries, rest)
    | rest =>
      match place, rest with
      -- the items of a value may stand as far left as its key
      | .entry, .item :: _ =>
        let (items, rest) ← readFlatItems handles fuel rest
        return (.sequence properties items, rest)
      | .flow, _ => bare properties rest
      | _, .blockSequence :: rest =>
        let (items, rest) ← readItems handles fuel rest
        return (.sequence properties items, rest)
      | _, .blockMapping :: rest =>
        let (entries, rest) ← readEntries handles fuel rest
        return (.mapping properties entries, rest)
      | _, _ => bare properties rest
where
  /-- A node of which only an anchor or a tag is written. -/
  bare (properties : Properties) (rest : List Token) : Option (Node × List Token) :=
    if properties.anchor.isSome || properties.tag.isSome then
      some (.scalar properties true "", rest)
    else none

def readItems (handles : Handles) : Nat → List Token → Option (List Node × List Token)
  | 0, _ => none
  | _ + 1, .blockEnd :: rest => some ([], rest)
  | fuel + 1, .item :: rest => do
    let (item, rest) ← if endsItem rest then pure (empty, rest) else read handles fuel .block rest
    let (items, rest) ← readItems handles fuel rest
    return (item :: items, rest)
  | _ + 1, _ => none

/-- Reads the items of a block sequence that stands at the indentation of the mapping around it. -/
def readFlatItems (handles : Handles) : Nat → List Token → Option (List Node × List Token)
  | 0, _ => none
  | fuel + 1, .item :: rest => do
    let (item, rest) ← if endsItem rest || endsBlockNode rest then pure (empty, rest)
      else read handles fuel .block rest
    let (items, rest) ← readFlatItems handles fuel rest
    return (item :: items, rest)
  | _ + 1, rest => some ([], rest)

def readEntries (handles : Handles) : Nat → List Token → Option (List (Node × Node) × List Token)
  | 0, _ => none
  | _ + 1, .blockEnd :: rest => some ([], rest)
  | fuel + 1, .key :: rest => do
    let (key, rest) ← if endsBlockNode rest then pure (empty, rest)
      else read handles fuel .entry rest
    let (value, rest) ← readBlockValue handles fuel rest
    let (entries, rest) ← readEntries handles fuel rest
    return ((key, value) :: entries, rest)
  | _ + 1, _ => none

def readBlockValue (handles : Handles) : Nat → List Token → Option (Node × List Token)
  | 0, _ => none
  | fuel + 1, .value :: rest =>
    if endsBlockNode rest then some (empty, rest) else read handles fuel .entry rest
  | _ + 1, rest => some (empty, rest)

/-- Reads the items of a flow sequence, and its end. `first` tells that no comma is due. -/
def readFlowItems (handles : Handles) : Nat → Bool → List Token → Option (List Node × List Token)
  | 0, _, _ => none
  | _ + 1, _, .sequenceClose :: rest => some ([], rest)
  | fuel + 1, false, .comma :: rest => readFlowItem handles fuel rest
  | _ + 1, false, _ => none
  | fuel + 1, true, tokens => readFlowItem handles fuel tokens

/-- Reads an item of a flow sequence and those behind it. A key starts a mapping with one entry. -/
def readFlowItem (handles : Handles) : Nat → List Token → Option (List Node × List Token)
  | 0, _ => none
  | _ + 1, .sequenceClose :: rest => some ([], rest)
  | fuel + 1, .key :: rest => do
    -- the key, the value or both may be left out
    let (key, rest) ← match rest with
      | .value :: rest => pure (empty, rest)
      | .comma :: rest => pure (empty, rest)
      | .sequenceClose :: rest => pure (empty, rest)
      | rest => read handles fuel .flow rest
    let (value, rest) ← match rest with
      | .value :: rest =>
        if endsFlowItem rest then pure (empty, rest) else read handles fuel .flow rest
      | rest => pure (empty, rest)
    let (items, rest) ← readFlowItems handles fuel false rest
    return (.mapping .none [(key, value)] :: items, rest)
  | fuel + 1, tokens => do
    let (item, rest) ← read handles fuel .flow tokens
    let (items, rest) ← readFlowItems handles fuel false rest
    return (item :: items, rest)

/-- Reads the entries of a flow mapping, and its end. `first` tells that no comma is due. -/
def readFlowEntries (handles : Handles) :
    Nat → Bool → List Token → Option (List (Node × Node) × List Token)
  | 0, _, _ => none
  | _ + 1, _, .mappingClose :: rest => some ([], rest)
  | fuel + 1, false, .comma :: rest => readFlowEntry handles fuel rest
  | _ + 1, false, _ => none
  | fuel + 1, true, tokens => readFlowEntry handles fuel tokens

/-- Reads an entry of a flow mapping and those behind it. -/
def readFlowEntry (handles : Handles) :
    Nat → List Token → Option (List (Node × Node) × List Token)
  | 0, _ => none
  | _ + 1, .mappingClose :: rest => some ([], rest)
  | fuel + 1, .key :: rest => do
    let (key, rest) ← match rest with
      | .value :: _ => pure (empty, rest)
      | _ => if endsFlowEntry rest then pure (empty, rest) else read handles fuel .flow rest
    let (value, rest) ← match rest with
      | .value :: rest =>
        if endsFlowEntry rest then pure (empty, rest) else read handles fuel .flow rest
      | rest => pure (empty, rest)
    let (entries, rest) ← readFlowEntries handles fuel false rest
    return ((key, value) :: entries, rest)
  | fuel + 1, tokens => do
    let (key, rest) ← read handles fuel .flow tokens
    let (entries, rest) ← readFlowEntries handles fuel false rest
    return ((key, empty) :: entries, rest)

end

/-- Reads the directives of a document. Each may be given once. -/
def readDirectives : Bool → Handles → List Token → Option (Handles × List Token)
  | versioned, handles, .version major minor :: rest =>
    if versioned || major ≠ 1 || !(minor == 1 || minor == 2) then none
    else readDirectives true handles rest
  | versioned, handles, .shorthand handle start :: rest =>
    if (handles.lookup handle).isSome then none
    else readDirectives versioned ((handle, start) :: handles) rest
  | _, handles, rest => some (handles ++ standardHandles, rest)

def endsDocument : List Token → Bool
  | .version _ _ :: _ => true
  | .shorthand _ _ :: _ => true
  | .documentStart :: _ => true
  | .documentEnd :: _ => true
  | .stop :: _ => true
  | _ => false

/-- Reads the node of a document, with or without its start. -/
def readDocument (tokens : List Token) : Option (Node × List Token) := do
  let fuel := 4 * tokens.length + 8
  match tokens with
  | .version _ _ :: _ => explicit fuel tokens
  | .shorthand _ _ :: _ => explicit fuel tokens
  | .documentStart :: _ => explicit fuel tokens
  | .stop :: _ => return (empty, tokens)
  | _ => read standardHandles fuel .block tokens
where
  explicit (fuel : Nat) (tokens : List Token) : Option (Node × List Token) := do
    let (handles, rest) ← readDirectives false [] tokens
    match rest with
    | .documentStart :: rest =>
      if endsDocument rest then return (empty, rest) else read handles fuel .block rest
    | _ => none

def isOver : List Token → Bool
  | .documentEnd :: rest => isOver rest
  | [.stop] => true
  | _ => false

def ofTokens? (tokens : List Token) : Option Node := do
  let (node, rest) ← readDocument tokens
  if isOver rest then return node else none

mutual

/-- How many events the node takes: one, and one more for the end of a collection. -/
def size : Node → Nat
  | reference _ => 1
  | scalar _ _ _ => 1
  | sequence _ items => sizeItems items + 2
  | mapping _ entries => sizeEntries entries + 2

def sizeItems : List Node → Nat
  | [] => 0
  | item :: rest => item.size + sizeItems rest

def sizeEntries : List (Node × Node) → Nat
  | [] => 0
  | (key, value) :: rest => key.size + value.size + sizeEntries rest

end

def ownAnchor (node : Node) : Properties → List (Nat × Node)
  | ⟨some number, _⟩ => [(number, node)]
  | ⟨none, _⟩ => []

mutual

def anchored : Node → List (Nat × Node)
  | reference _ => []
  | scalar properties plain text => ownAnchor (scalar properties plain text) properties
  | sequence properties items =>
    anchoredItems items ++ ownAnchor (sequence properties items) properties
  | mapping properties entries =>
    anchoredEntries entries ++ ownAnchor (mapping properties entries) properties

def anchoredItems : List Node → List (Nat × Node)
  | [] => []
  | item :: rest => anchoredItems rest ++ item.anchored

def anchoredEntries : List (Node × Node) → List (Nat × Node)
  | [] => []
  | (key, value) :: rest => anchoredEntries rest ++ (value.anchored ++ key.anchored)

end

end Node

end FlowPlan.Yaml
