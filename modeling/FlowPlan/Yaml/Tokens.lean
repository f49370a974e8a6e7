import FlowPlan.Yaml.Block
import FlowPlan.Yaml.Flow
import FlowPlan.Yaml.Tag
import FlowPlan.Yaml.Token

/-!
Cutting a YAML text into tokens. Whether a scalar or a collection is a key shows only at the colon
behind it, so that its place is remembered until then: the colon has to be on the same line and at
most 1024 bytes away.
-/

namespace FlowPlan.Yaml

/-- A place where a key may have started. -/
structure KeyStart where
  line : Nat
  column : Nat
  /-- How many bytes of the line were before it. -/
  offset : Nat
  /-- How many tokens there were before it. -/
  index : Nat
  /-- A colon has to follow, since the line stands where the keys of the block stand. -/
  required : Bool

def maxKeyLength : Nat :=
  1024

structure Scan where
  rest : List Spot
  tokens : Array Token
  /-- The columns of the open blocks, innermost first. -/
  indents : List Nat
  /-- The key that may have started in the innermost collection. -/
  key : Option KeyStart
  /-- The same for the collections around it, if it is a flow collection. -/
  outerKeys : List (Option KeyStart)
  /-- A key may start here. -/
  keyAllowed : Bool
  anchors : Anchors

namespace Scan

def start (text : List Spot) : Scan where
  rest := text
  tokens := #[]
  indents := []
  key := none
  outerKeys := []
  keyAllowed := true
  anchors := []

def inFlow (s : Scan) : Bool :=
  !s.outerKeys.isEmpty

def floor (s : Scan) : Nat :=
  match s.indents with
  | [] => 0
  | column :: _ => column + 1

def push (token : Token) (s : Scan) : Scan :=
  { s with tokens := s.tokens.push token }

def drop (count : Nat) (s : Scan) : Scan :=
  { s with rest := s.rest.drop count }

def allowKey (allowed : Bool) (s : Scan) : Scan :=
  { s with keyAllowed := allowed }

def dropKey (s : Scan) : Option Scan :=
  match s.key with
  | some key => if key.required then none else some { s with key := none }
  | none => some s

def saveKey (spot : Spot) (s : Scan) : Option Scan :=
  if s.keyAllowed then do
    let s ← s.dropKey
    let key : KeyStart :=
      { line := spot.line
        column := spot.column
        offset := spot.offset
        index := s.tokens.size
        required := !s.inFlow && s.indents.head? == some spot.column }
    return { s with key := some key }
  else some s

def freshKey (spot : Spot) : Option KeyStart → Option (Option KeyStart)
  | none => some none
  | some key =>
    if key.line < spot.line ∨ key.offset + maxKeyLength < spot.offset then
      if key.required then none else some none
    else some (some key)

def dropStaleKeys (spot : Spot) (s : Scan) : Option Scan := do
  return { s with key := ← freshKey spot s.key, outerKeys := ← s.outerKeys.mapM (freshKey spot) }

/-- Starts a block at `column`, its token being put at `index`, unless one is open there. -/
def openBlock (column index : Nat) (token : Token) (s : Scan) : Scan :=
  if s.inFlow || column < s.floor then s
  else
    { s with
      indents := column :: s.indents
      tokens := s.tokens.insertIdxIfInBounds index token }

def closeBlocks (ends : Nat → Bool) (s : Scan) : Scan :=
  if s.inFlow then s
  else
    { s with
      tokens := s.tokens ++ (s.indents.takeWhile ends).map fun _ => Token.blockEnd
      indents := s.indents.dropWhile ends }

def closeAllBlocks (s : Scan) : Scan :=
  s.closeBlocks fun _ => true

/-- Drops blanks, comments and line breaks. A tab is no indentation. -/
def skipGap (inFlow : Bool) : Bool → Bool → List Spot → Bool × List Spot
  | keyAllowed, _, [] => (keyAllowed, [])
  | keyAllowed, inComment, spot :: rest =>
    if isBreak spot.char then skipGap inFlow (keyAllowed || !inFlow) false rest
    else if inComment then
      if isEnd spot.char then (keyAllowed, spot :: rest) else skipGap inFlow keyAllowed true rest
    else if spot.char == ' ' || (spot.char == '\t' && (inFlow || !keyAllowed)) ||
        (spot.char == byteOrderMark && spot.column == 0) then
      skipGap inFlow keyAllowed false rest
    else if spot.char == '#' then skipGap inFlow keyAllowed true rest
    else (keyAllowed, spot :: rest)

def skip (s : Scan) : Scan :=
  let (keyAllowed, rest) := skipGap s.inFlow s.keyAllowed false s.rest
  { s with keyAllowed, rest }

/-- A mark of its own line: a directive or the start or the end of a document. -/
def document (token : Token) (rest : List Spot) (s : Scan) : Option Scan := do
  let s ← s.closeAllBlocks.dropKey
  return { s.push token with rest, keyAllowed := false }

def directive (s : Scan) : Option Scan := do
  let (name, rest) := takeChars isWord (s.rest.drop 1)
  if !(rest.head?.any fun spot => isGap spot.char) then none
  else if name == "YAML".toList then
    let (major, minor, rest) ← readVersion rest
    s.document (.version major minor) (← finishLine? rest)
  else if name == "TAG".toList then
    let (tag, rest) ← readShorthand rest
    s.document (.shorthand tag.handle tag.rest) (← finishLine? rest)
  else none

def openFlow (spot : Spot) (token : Token) (s : Scan) : Option Scan := do
  let s ← s.saveKey spot
  let s := { s with key := none, outerKeys := s.key :: s.outerKeys }
  return ((s.allowKey true).push token).drop 1

def closeFlow (token : Token) (s : Scan) : Option Scan := do
  let s ← s.dropKey
  let s := match s.outerKeys with
    | key :: outerKeys => { s with key, outerKeys }
    | [] => s
  return ((s.allowKey false).push token).drop 1

def comma (s : Scan) : Option Scan := do
  let s ← s.dropKey
  return ((s.allowKey true).push .comma).drop 1

def openHere (spot : Spot) (token : Token) (s : Scan) : Option Scan :=
  if s.inFlow then some s
  else if s.keyAllowed then some (s.openBlock spot.column s.tokens.size token)
  else none

def item (spot : Spot) (s : Scan) : Option Scan := do
  let s ← (← s.openHere spot .blockSequence).dropKey
  return ((s.allowKey true).push .item).drop 1

def explicitKey (spot : Spot) (s : Scan) : Option Scan := do
  let s ← (← s.openHere spot .blockMapping).dropKey
  return ((s.allowKey (!s.inFlow)).push .key).drop 1

/-- A colon. It makes what started before it on the line a key. -/
def value (spot : Spot) (s : Scan) : Option Scan := do
  match s.key with
  | some key =>
    let s := { s with key := none, tokens := s.tokens.insertIdxIfInBounds key.index .key }
    let s := s.openBlock key.column key.index .blockMapping
    return ((s.allowKey false).push .value).drop 1
  | none =>
    let s ← s.openHere spot .blockMapping
    return ((s.allowKey (!s.inFlow)).push .value).drop 1

def endsName (c : Char) : Bool :=
  isGap c || "?:,]\x7d%@`".contains c

def readName (text : List Spot) : Option (String × List Spot) :=
  let (name, rest) := takeChars isWord text
  if name.isEmpty || !(rest.head?.any fun spot => endsName spot.char) then none
  else some (String.ofList name, rest)

def anchor (spot : Spot) (s : Scan) : Option Scan := do
  let s ← s.saveKey spot
  let (name, rest) ← readName (s.rest.drop 1)
  let (number, anchors) := s.anchors.add name
  return { s.push (.anchor number) with rest, anchors, keyAllowed := false }

def reference (spot : Spot) (s : Scan) : Option Scan := do
  let s ← s.saveKey spot
  let (name, rest) ← readName (s.rest.drop 1)
  return { s.push (.reference (← s.anchors.lookup name)) with rest, keyAllowed := false }

def tag (spot : Spot) (s : Scan) : Option Scan := do
  let s ← s.saveKey spot
  let (tag, rest) ← readTag s.inFlow (s.rest.drop 1)
  return { s.push (.tag tag.handle tag.rest) with rest, keyAllowed := false }

def block (literal : Bool) (s : Scan) : Option Scan := do
  let s ← s.dropKey
  let (text, rest) ← readBlock literal s.floor (s.rest.drop 1)
  return { s.push (.scalar false text) with rest, keyAllowed := true }

def quoted (spot : Spot) (read : Nat → String → List Spot → Option (String × List Spot))
    (s : Scan) : Option Scan := do
  let s ← s.saveKey spot
  let (text, rest) ← read s.rest.length "" (s.rest.drop 1)
  return { s.push (.scalar false text) with rest, keyAllowed := false }

def plain (spot : Spot) (s : Scan) : Option Scan := do
  let s ← s.saveKey spot
  let found ← readPlain s.inFlow s.floor (s.rest.length + 1) "" .none s.rest
  return { s.push (.scalar true found.text) with rest := found.rest, keyAllowed := found.broken }

def startsPlain (inFlow : Bool) (c next : Char) : Bool :=
  !(isGap c || "-?:,[]\x7b\x7d#&*!|>'\"%@`".contains c) || (c == '-' && !isBlank next) ||
    (!inFlow && (c == '?' || c == ':') && !isGap next)

/-- Reads the token that starts with `spot`, before a character `next`. -/
def token (spot : Spot) (next : Char) (s : Scan) : Option Scan :=
  let c := spot.char
  if spot.column == 0 && c == '%' then s.directive
  else if isMarker '-' s.rest then s.document .documentStart (s.rest.drop 3)
  else if isMarker '.' s.rest then s.document .documentEnd (s.rest.drop 3)
  else if c == '[' then s.openFlow spot .sequenceOpen
  else if c == '\x7b' then s.openFlow spot .mappingOpen
  else if c == ']' then s.closeFlow .sequenceClose
  else if c == '\x7d' then s.closeFlow .mappingClose
  else if c == ',' then s.comma
  else if c == '-' && isGap next then s.item spot
  else if c == '?' && (s.inFlow || isGap next) then s.explicitKey spot
  else if c == ':' && (s.inFlow || isGap next) then s.value spot
  else if c == '*' then s.reference spot
  else if c == '&' then s.anchor spot
  else if c == '!' then s.tag spot
  else if c == '|' && !s.inFlow then s.block true
  else if c == '>' && !s.inFlow then s.block false
  else if c == '\'' then s.quoted spot readSingle
  else if c == '"' then s.quoted spot readDouble
  else if startsPlain s.inFlow c next then s.plain spot
  else none

/-- Reads all tokens. `fuel` bounds their count. -/
def run : Nat → Scan → Option (List Token)
  | 0, _ => none
  | fuel + 1, s =>
    let s := s.skip
    match s.rest with
    | [] => none
    | spot :: rest => do
      let s := (← s.dropStaleKeys spot).closeBlocks (spot.column < ·)
      match rest with
      | [] =>
        let s ← s.closeAllBlocks.dropKey
        return (s.push .stop).tokens.toList
      | next :: _ => run fuel (← s.token spot next.char)

end Scan

def tokens? (text : String) : Option (List Token) := do
  let spots ← spots? text
  Scan.run (spots.length + 1) (Scan.start spots)

end FlowPlan.Yaml
