import FlowPlan.Text.Digit
import FlowPlan.Yaml.Source

/-!
Scalars that are written on the line: plain, or between quotes. One that goes on over several lines
is folded: a single line break reads as a space, and of several the first is dropped.
-/

namespace FlowPlan.Yaml

inductive Gap where
  | inline (blanks : List Char)
  /-- A gap with line breaks. The first one is missing when a backslash stood before it. -/
  | lines (first : Option Char) (further : List Char)

namespace Gap

def none : Gap :=
  .inline []

def text : Gap → List Char
  | .inline blanks => blanks
  | .lines (some '\n') [] => [' ']
  | .lines (some '\n') further => further
  | .lines first further => first.toList ++ further

def isLines : Gap → Bool
  | .inline _ => false
  | .lines _ _ => true

/-- Reads on in a gap. After a line break no tab may stand left of the column `floor`. -/
def read (floor : Nat) : Gap → List Spot → Option (Gap × List Spot)
  | gap, [] => some (gap, [])
  | gap, spot :: rest =>
    if isBlank spot.char then
      match gap with
      | .inline blanks => read floor (.inline (blanks ++ [spot.char])) rest
      | .lines first further =>
        -- tabs do not indent
        if spot.char = '\t' ∧ spot.column < floor then Option.none
        else read floor (.lines first further) rest
    else if isBreak spot.char then
      match gap with
      | .inline _ => read floor (.lines (some spot.char) []) rest
      | .lines first further => read floor (.lines first (further ++ [spot.char])) rest
    else some (gap, spot :: rest)

end Gap

def append (text : String) (chars : List Char) : String :=
  chars.foldl String.push text

/-- The character that a letter after a backslash stands for. -/
def escaped? : Char → Option Char
  | '0' => some '\x00'
  | 'a' => some '\x07'
  | 'b' => some '\x08'
  | 't' => some '\t'
  | '\t' => some '\t'
  | 'n' => some '\n'
  | 'v' => some '\x0b'
  | 'f' => some '\x0c'
  | 'r' => some '\r'
  | 'e' => some '\x1b'
  | ' ' => some ' '
  | '"' => some '"'
  | '/' => some '/'
  | '\\' => some '\\'
  | 'N' => some '\u0085'
  | '_' => some '\u00a0'
  | 'L' => some '\u2028'
  | 'P' => some '\u2029'
  | _ => none

def escapeLength? : Char → Option Nat
  | 'x' => some 2
  | 'u' => some 4
  | 'U' => some 8
  | _ => none

def readEscape : List Spot → Option (Char × List Spot)
  | [] => none
  | spot :: rest =>
    match escapeLength? spot.char with
    | some length => do
      let code ← Text.number? 16 ((rest.take length).map Spot.char)
      return (← Text.char? code, rest.drop length)
    | none => (escaped? spot.char).map (·, rest)

/-- Reads a scalar between double quotes, from behind the first. `fuel` bounds the steps. -/
def readDouble : Nat → String → List Spot → Option (String × List Spot)
  | 0, _, _ => none
  | fuel + 1, read, text =>
    if atMarker text then none
    else
      match text with
      | [] => none
      | ⟨'"', _, _, _⟩ :: rest => some (read, rest)
      | ⟨'\\', _, _, _⟩ :: next :: rest =>
        if isBreak next.char then do
          -- the line break is escaped, and only further ones are kept
          let (gap, rest) ← Gap.read 0 (.lines none []) rest
          readDouble fuel (append read gap.text) rest
        else do
          let (c, rest) ← readEscape (next :: rest)
          readDouble fuel (read.push c) rest
      | spot :: rest =>
        if isEnd spot.char then none
        else if isGap spot.char then do
          let (gap, rest) ← Gap.read 0 .none (spot :: rest)
          readDouble fuel (append read gap.text) rest
        else readDouble fuel (read.push spot.char) rest

/-- Reads a scalar between single quotes, from behind the first. A quote in it is written twice. -/
def readSingle : Nat → String → List Spot → Option (String × List Spot)
  | 0, _, _ => none
  | fuel + 1, read, text =>
    if atMarker text then none
    else
      match text with
      | [] => none
      | ⟨'\'', _, _, _⟩ :: ⟨'\'', _, _, _⟩ :: rest => readSingle fuel (read.push '\'') rest
      | ⟨'\'', _, _, _⟩ :: rest => some (read, rest)
      | spot :: rest =>
        if isEnd spot.char then none
        else if isGap spot.char then do
          let (gap, rest) ← Gap.read 0 .none (spot :: rest)
          readSingle fuel (append read gap.text) rest
        else readSingle fuel (read.push spot.char) rest

def isFlowMark (c : Char) : Bool :=
  c == ',' || c == '[' || c == ']' || c == '\x7b' || c == '\x7d'

def endsPlain (inFlow : Bool) (c next : Char) : Bool :=
  isLineEnd c || (c == ':' && isGap next) || (inFlow && isFlowMark c)

/-- What a plain scalar has come to: its text, whether a line break follows, and the rest. -/
structure PlainScalar where
  text : String
  broken : Bool
  rest : List Spot

def stopsAfterGap (inFlow : Bool) (floor : Nat) : List Spot → Bool
  | [] => true
  | spot :: rest =>
    (!inFlow && spot.column < floor) || spot.char == '#' || atMarker (spot :: rest)

/-- Reads a plain scalar. In the block context its later lines are indented to `floor`. In a flow
collection a colon in front of a mark of such collections is refused. -/
def readPlain (inFlow : Bool) (floor : Nat) : Nat → String → Gap → List Spot → Option PlainScalar
  | 0, _, _, _ => none
  | fuel + 1, read, gap, text =>
    match text with
    | spot :: next :: rest =>
      if isBlank spot.char || isBreak spot.char then do
        let (gap, rest) ← Gap.read floor .none text
        if stopsAfterGap inFlow floor rest then return ⟨read, gap.isLines, rest⟩
        readPlain inFlow floor fuel read gap rest
      -- in a flow collection, such a colon could as well end a key
      else if inFlow && spot.char == ':' && (isFlowMark next.char || next.char == '?') then none
      else if endsPlain inFlow spot.char next.char then some ⟨read, gap.isLines, text⟩
      else
        readPlain inFlow floor fuel ((append read gap.text).push spot.char) .none (next :: rest)
    | _ => some ⟨read, gap.isLines, text⟩

end FlowPlan.Yaml
