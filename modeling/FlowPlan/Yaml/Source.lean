import FlowPlan.Text.Range

/-!
The characters of a YAML text, each with its place. Every spelling of a line break is one character
here, and a last character, which no text contains, stands for the end.
-/

namespace FlowPlan.Yaml

/-- A character and where it stands: lines and columns are counted from zero. -/
structure Spot where
  char : Char
  line : Nat
  column : Nat
  /-- How many bytes of its line are in front of it. -/
  offset : Nat

def isAllowed (c : Char) : Bool :=
  Text.inRanges [(0x9, 0xA), (0xD, 0xD), (0x20, 0x7E), (0x85, 0x85), (0xA0, 0xD7FF),
    (0xE000, 0xFFFD), (0x10000, 0x10FFFF)] c.toNat

def isBreak (c : Char) : Bool :=
  c == '\n' || c == '\u2028' || c == '\u2029'

def isBlank (c : Char) : Bool :=
  c == ' ' || c == '\t'

def endMark : Char :=
  '\x00'

def isEnd (c : Char) : Bool :=
  c == endMark

def isLineEnd (c : Char) : Bool :=
  isBreak c || isEnd c

def isGap (c : Char) : Bool :=
  isBlank c || isLineEnd c

def isWord (c : Char) : Bool :=
  c.isAlphanum || c == '-' || c == '_'

def byteOrderMark : Char :=
  '\ufeff'

def unifyBreaks : List Char → List Char
  | '\r' :: '\n' :: rest => '\n' :: unifyBreaks rest
  | '\r' :: rest => '\n' :: unifyBreaks rest
  | '\u0085' :: rest => '\n' :: unifyBreaks rest
  | c :: rest => c :: unifyBreaks rest
  | [] => []

def spotsFrom : Nat → Nat → Nat → List Char → List Spot
  | line, column, offset, [] => [⟨endMark, line, column, offset⟩]
  | line, column, offset, c :: rest =>
    ⟨c, line, column, offset⟩ ::
      (if isBreak c then spotsFrom (line + 1) 0 0 rest
      else spotsFrom line (column + 1) (offset + c.utf8Size) rest)

def spots? (text : String) : Option (List Spot) :=
  if text.toList.all isAllowed then some (spotsFrom 0 0 0 (unifyBreaks text.toList)) else none

def isMarker (c : Char) : List Spot → Bool
  | first :: second :: third :: next :: _ =>
    first.column == 0 && first.char == c && second.char == c && third.char == c && isGap next.char
  | _ => false

def atMarker (text : List Spot) : Bool :=
  isMarker '-' text || isMarker '.' text

def takeChars (p : Char → Bool) (text : List Spot) : List Char × List Spot :=
  ((text.takeWhile fun spot => p spot.char).map Spot.char, text.dropWhile fun spot => p spot.char)

/-- Drops blanks and a comment, up to the end of the line. A comment needs no blank before it. -/
def skipToLineEnd (text : List Spot) : List Spot :=
  match text.dropWhile fun spot => isBlank spot.char with
  | ⟨'#', _, _, _⟩ :: rest => rest.dropWhile fun spot => !isLineEnd spot.char
  | rest => rest

/-- The rest of a line may hold a comment only. Returns the start of the next line. -/
def finishLine? (text : List Spot) : Option (List Spot) :=
  match skipToLineEnd text with
  | spot :: rest =>
    if isEnd spot.char then some (spot :: rest)
    else if isBreak spot.char then some rest
    else none
  | [] => none

end FlowPlan.Yaml
