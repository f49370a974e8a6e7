import FlowPlan.Yaml.Source

namespace FlowPlan.Yaml

inductive Chomping where
  /-- One is kept. -/
  | clip
  | strip
  | keep
deriving DecidableEq

def chomping? : Char → Option Chomping
  | '-' => some .strip
  | '+' => some .keep
  | _ => none

def readWidth : List Spot → Option (Option Nat × List Spot)
  | spot :: rest =>
    if spot.char = '0' then none
    else if spot.char.isDigit then some (some (spot.char.toNat - '0'.toNat), rest)
    else some (none, spot :: rest)
  | [] => none

def readChomping : List Spot → Chomping × List Spot
  | spot :: rest =>
    match chomping? spot.char with
    | some chomping => (chomping, rest)
    | none => (.clip, spot :: rest)
  | [] => (.clip, [])

def readHeader (text : List Spot) : Option (Chomping × Option Nat × List Spot) :=
  match text with
  | spot :: rest =>
    match chomping? spot.char with
    | some chomping => do
      let (width, rest) ← readWidth rest
      return (chomping, width, rest)
    | none => do
      let (width, rest) ← readWidth (spot :: rest)
      let (chomping, rest) := if width.isSome then readChomping rest else (.clip, rest)
      return (chomping, width, rest)
  | [] => none

structure BreakRun where
  breaks : List Char
  deepest : Nat
  rest : List Spot

/-- Reads empty lines and the indentation of the next line, at most to the column `indent` if that
is known. No tab may stand there. -/
def readBreaks (indent : Option Nat) : List Char → Nat → List Spot → Option BreakRun
  | breaks, deepest, [] => some ⟨breaks, deepest, []⟩
  | breaks, deepest, spot :: rest =>
    let inside := indent.all (spot.column < ·)
    let deepest := max deepest spot.column
    if inside && spot.char == ' ' then readBreaks indent breaks deepest rest
    else if inside && spot.char == '\t' then none
    else if isBreak spot.char then readBreaks indent (breaks ++ [spot.char]) deepest rest
    else some ⟨breaks, deepest, spot :: rest⟩

/-- A block as far as it has been read: the breaks after its last line are held back. -/
structure BlockText where
  text : List Char
  lineBreak : List Char
  emptyLines : List Char
  /-- The last line started with a blank. -/
  blankLed : Bool

namespace BlockText

/-- What stands between the last line and the next. A folded break joins two lines that start with
no blank. -/
def joint (block : BlockText) (literal nextBlankLed : Bool) : List Char :=
  if !literal && block.lineBreak == ['\n'] && !block.blankLed && !nextBlankLed then
    (if block.emptyLines.isEmpty then [' '] else block.emptyLines)
  else block.lineBreak ++ block.emptyLines

def close (block : BlockText) : Chomping → List Char
  | .strip => block.text
  | .clip => block.text ++ block.lineBreak
  | .keep => block.text ++ block.lineBreak ++ block.emptyLines

end BlockText

/-- Reads the lines of a block that are indented to `indent`. `fuel` bounds their count. -/
def readLines (literal : Bool) (indent : Nat) : Nat → BlockText → List Spot →
    Option (BlockText × List Spot)
  | 0, block, text => some (block, text)
  | fuel + 1, block, text =>
    match text with
    | [] => some (block, [])
    | spot :: _ =>
      if spot.column ≠ indent ∨ isEnd spot.char then some (block, text)
      else do
        -- lines that start with a blank are not joined to their neighbours
        let blankLed := isBlank spot.char
        let (line, rest) := takeChars (fun c => !isLineEnd c) text
        let (lineBreak, rest) := match rest with
          | next :: after => if isBreak next.char then ([next.char], after) else ([], rest)
          | [] => ([], [])
        let run ← readBreaks (some indent) [] 0 rest
        readLines literal indent fuel
          { text := block.text ++ block.joint literal blankLed ++ line
            lineBreak
            emptyLines := run.breaks
            blankLed }
          run.rest

/-- Reads a block scalar from behind its indicator. Its lines stand at the column `floor` or further
right. -/
def readBlock (literal : Bool) (floor : Nat) (text : List Spot) : Option (String × List Spot) := do
  let (chomping, width, rest) ← readHeader text
  let rest ← finishLine? rest
  let fixed := width.map fun n => if floor = 0 then n else floor - 1 + n
  let run ← readBreaks fixed [] 0 rest
  let indent := fixed.getD (max run.deepest (max floor 1))
  let opening : BlockText := ⟨[], [], run.breaks, false⟩
  let (block, rest) ← readLines literal indent (text.length + 1) opening run.rest
  return (String.ofList (block.close chomping), rest)

end FlowPlan.Yaml
