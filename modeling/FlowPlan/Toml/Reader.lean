import FlowPlan.Toml.Table
import FlowPlan.Toml.Text

/-!
Reading TOML text into documents. Of the values only strings, arrays and tables are read, which is
what settings are made of; all others are refused.
-/

namespace FlowPlan.Toml

def skipBlanks (text : List Char) : List Char :=
  text.dropWhile isBlank

def skipComment : List Char → List Char
  | '#' :: rest => rest.dropWhile isInLine
  | text => text

/-- The rest of a line may hold a comment only. Returns the start of the next line. -/
def finishLine (text : List Char) : Option (List Char) :=
  match skipComment (skipBlanks text) with
  | [] => some []
  | rest => lineBreak? rest

/-- Drops blanks, comments and line breaks. `fuel` bounds the count of lines. -/
def skipLines : Nat → List Char → List Char
  | 0, text => text
  | fuel + 1, text =>
    let rest := skipComment (skipBlanks text)
    match lineBreak? rest with
    | some rest => skipLines fuel rest
    | none => rest

def isBare (c : Char) : Bool :=
  c.isAlphanum || c == '-' || c == '_'

def readKeyPart (text : List Char) : Option (String × List Char) :=
  match text with
  | c :: _ =>
    if isBare c then some (String.ofList (text.takeWhile isBare), text.dropWhile isBare)
    else readShortText text
  | [] => none

/-- Reads a key: parts with dots between them. `fuel` bounds their count. -/
def readKey : Nat → List Char → Option (List String × List Char)
  | 0, _ => none
  | fuel + 1, text => do
    let (part, rest) ← readKeyPart (skipBlanks text)
    match skipBlanks rest with
    | '.' :: rest =>
      let (parts, rest) ← readKey fuel rest
      return (part :: parts, rest)
    | rest => return ([part], rest)

def readAssigned (text : List Char) : Option (List String × List Char) := do
  let (key, rest) ← readKey (text.length + 1) text
  match rest with
  | '=' :: rest => return (key, skipBlanks rest)
  | _ => none

mutual

/-- Reads a value. `fuel` bounds the number of steps. -/
def readValue : Nat → List Char → Option (Document × List Char)
  | 0, _ => none
  | fuel + 1, '[' :: rest => do
    let (items, rest) ← readItems fuel (skipLines (rest.length + 1) rest)
    return (.sequence items, rest)
  | fuel + 1, '\x7b' :: rest =>
    match skipBlanks rest with
    | '\x7d' :: rest => some (.mapping [], rest)
    | rest => do
      let (entries, rest) ← readEntries fuel [] rest
      return (.mapping (Entries.fields entries), rest)
  | _ + 1, text => do
    let (read, rest) ← readText text
    return (.text read, rest)

/-- Reads the items of an array, and its end. A comma may follow the last one. -/
def readItems : Nat → List Char → Option (List Document × List Char)
  | 0, _ => none
  | _ + 1, ']' :: rest => some ([], rest)
  | fuel + 1, text => do
    let (item, rest) ← readValue fuel text
    match skipLines (rest.length + 1) rest with
    | ']' :: rest => return ([item], rest)
    | ',' :: rest =>
      let (items, rest) ← readItems fuel (skipLines (rest.length + 1) rest)
      return (item :: items, rest)
    | _ => none

def readEntries : Nat → Entries → List Char → Option (Entries × List Char)
  | 0, _, _ => none
  | fuel + 1, entries, text => do
    let (key, rest) ← readAssigned text
    let (value, rest) ← readValue fuel rest
    let entries ← entries.assign key value
    match skipBlanks rest with
    | '\x7d' :: rest => return (entries, rest)
    | ',' :: rest => readEntries fuel entries rest
    | _ => none

end

/-- Reads the rest of a text line by line. `path` leads to the table that keys belong to. -/
def readLines : Nat → List String → Entries → List Char → Option Entries
  | 0, _, _, _ => none
  | fuel + 1, path, entries, text =>
    match skipLines (text.length + 1) text with
    | [] => some entries
    -- arrays of tables are not read
    | '[' :: '[' :: _ => none
    | '[' :: rest => do
      let (path, rest) ← readKey (rest.length + 1) rest
      match rest with
      | ']' :: rest => readLines fuel path (← entries.openHeader path) (← finishLine rest)
      | _ => none
    | text => do
      let (key, rest) ← readAssigned text
      let (value, rest) ← readValue (2 * rest.length + 2) rest
      readLines fuel path (← entries.modify (Entries.assign key value) path) (← finishLine rest)

def dropByteOrderMark : List Char → List Char
  | '\ufeff' :: rest => rest
  | text => text

def read? (text : String) : Option Fields := do
  let entries ← readLines (text.length + 1) [] [] (dropByteOrderMark text.toList)
  return Entries.fields entries

end FlowPlan.Toml
