import FlowPlan.Text.Digit

namespace FlowPlan.Toml

def isInLine (c : Char) : Bool :=
  c == '\t' || (0x20 ≤ c.toNat && c.toNat != 0x7F)

def isBlank (c : Char) : Bool :=
  c == ' ' || c == '\t'

def lineBreak? : List Char → Option (List Char)
  | '\n' :: rest => some rest
  | '\r' :: '\n' :: rest => some rest
  | _ => none

/-- Reads what follows a backslash. -/
def readEscape : List Char → Option (Char × List Char)
  | 'u' :: rest => do
    return (← (Text.number? 16 (rest.take 4)).bind Text.char?, ← dropAll 4 rest)
  | 'U' :: rest => do
    return (← (Text.number? 16 (rest.take 8)).bind Text.char?, ← dropAll 8 rest)
  | 'b' :: rest => some ('\x08', rest)
  | 't' :: rest => some ('\t', rest)
  | 'n' :: rest => some ('\n', rest)
  | 'f' :: rest => some ('\x0c', rest)
  | 'r' :: rest => some ('\r', rest)
  | '"' :: rest => some ('"', rest)
  | '\\' :: rest => some ('\\', rest)
  | _ => none
where
  /-- Drops exactly `count` characters. -/
  dropAll (count : Nat) (text : List Char) : Option (List Char) :=
    if text.length < count then none else some (text.drop count)

/-- Reads a basic string on one line, from behind its quote. `fuel` bounds the steps. -/
def readBasic : Nat → String → List Char → Option (String × List Char)
  | 0, _, _ => none
  | _ + 1, _, [] => none
  | _ + 1, read, '"' :: rest => some (read, rest)
  | fuel + 1, read, '\\' :: rest => do
    let (c, rest) ← readEscape rest
    readBasic fuel (read.push c) rest
  | fuel + 1, read, c :: rest => if isInLine c then readBasic fuel (read.push c) rest else none

def readLiteral : String → List Char → Option (String × List Char)
  | _, [] => none
  | read, '\'' :: rest => some (read, rest)
  | read, c :: rest => if isInLine c then readLiteral (read.push c) rest else none

/-- Three quotes end a string of several lines; up to two more in front of them belong to it. -/
def closing? (quote : Char) (text : List Char) : Option (Nat × List Char) :=
  let count := (text.takeWhile (· == quote)).length
  if count < 3 then none
  else
    let inside := min (count - 3) 2
    some (inside, text.drop (inside + 3))

/-- Drops blanks and line breaks. `fuel` bounds the steps. -/
def dropSpace : Nat → List Char → List Char
  | 0, text => text
  | _ + 1, [] => []
  | fuel + 1, c :: rest =>
    match lineBreak? (c :: rest) with
    | some rest => dropSpace fuel rest
    | none => if isBlank c then dropSpace fuel rest else c :: rest

/-- Reads a basic string of several lines. A backslash at the end of a line joins it to the text
that comes next. -/
def readLongBasic : Nat → String → List Char → Option (String × List Char)
  | 0, _, _ => none
  | fuel + 1, read, text =>
    -- the closing quotes may follow quotes of the text itself
    match closing? '"' text with
    | some (inside, rest) => some (read ++ String.ofList (List.replicate inside '"'), rest)
    | none =>
      match lineBreak? text with
      | some rest => readLongBasic fuel (read.push '\n') rest
      | none =>
        match text with
        | [] => none
        | '\\' :: rest =>
          -- only blanks stand between the backslash and the end of the line
          match lineBreak? (rest.dropWhile isBlank) with
          | some rest => readLongBasic fuel read (dropSpace (rest.length + 1) rest)
          | none => do
            let (c, rest) ← readEscape rest
            readLongBasic fuel (read.push c) rest
        | c :: rest => if isInLine c then readLongBasic fuel (read.push c) rest else none

def readLongLiteral : Nat → String → List Char → Option (String × List Char)
  | 0, _, _ => none
  | fuel + 1, read, text =>
    match closing? '\'' text with
    | some (inside, rest) => some (read ++ String.ofList (List.replicate inside '\''), rest)
    | none =>
      match lineBreak? text with
      | some rest => readLongLiteral fuel (read.push '\n') rest
      | none =>
        match text with
        | [] => none
        | c :: rest => if isInLine c then readLongLiteral fuel (read.push c) rest else none

def dropFirstBreak (text : List Char) : List Char :=
  (lineBreak? text).getD text

def readShortText : List Char → Option (String × List Char)
  | '"' :: rest => readBasic (rest.length + 1) "" rest
  | '\'' :: rest => readLiteral "" rest
  | _ => none

def readText : List Char → Option (String × List Char)
  | '"' :: '"' :: '"' :: rest => readLongBasic (rest.length + 1) "" (dropFirstBreak rest)
  | '\'' :: '\'' :: '\'' :: rest => readLongLiteral (rest.length + 1) "" (dropFirstBreak rest)
  | text => readShortText text

end FlowPlan.Toml
