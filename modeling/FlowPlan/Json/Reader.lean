import FlowPlan.Json.Number

namespace FlowPlan.Json

def isBlank (c : Char) : Bool :=
  c == ' ' || c == '\n' || c == '\t' || c == '\r'

def skipBlanks (text : List Char) : List Char :=
  text.dropWhile isBlank

def hexValue? (c : Char) : Option Nat :=
  if '0' ≤ c ∧ c ≤ '9' then some (c.toNat - '0'.toNat)
  else if 'a' ≤ c ∧ c ≤ 'f' then some (c.toNat - 'a'.toNat + 10)
  else if 'A' ≤ c ∧ c ≤ 'F' then some (c.toNat - 'A'.toNat + 10)
  else none

def hexUnit? (a b c d : Char) : Option Nat := do
  return (((← hexValue? a) * 16 + (← hexValue? b)) * 16 + (← hexValue? c)) * 16 + (← hexValue? d)

def shortEscape (rest : List Char) : Fault :=
  if (String.ofList rest).utf8ByteSize < 4 then .truncated else .malformed

/-- Reads a string, `text` being what follows its opening quote. A character beyond the first 65536
is escaped as a pair of surrogates, and a surrogate outside of a pair is refused. -/
def readString (text : List Char) (read : String) : Except Fault (String × List Char) :=
  match text with
  | [] => .error .truncated
  | '"' :: rest => .ok (read, rest)
  | '\\' :: 'u' :: a :: b :: c :: d :: rest =>
    match hexUnit? a b c d with
    | none => .error .malformed
    | some unit =>
      -- the second half of a pair comes after the first
      if 0xDC00 ≤ unit ∧ unit ≤ 0xDFFF then .error .malformed
      else if unit < 0xD800 ∨ 0xDBFF < unit then readString rest (read.push (Char.ofNat unit))
      else
        -- the first half of a pair is nothing without the second
        match rest with
        | [] => .error .truncated
        | ['\\'] => .error .truncated
        | '\\' :: 'u' :: a' :: b' :: c' :: d' :: rest' =>
          match hexUnit? a' b' c' d' with
          | none => .error .malformed
          | some low =>
            if low < 0xDC00 ∨ 0xDFFF < low then .error .malformed
            else
              readString rest'
                (read.push (Char.ofNat (0x10000 + (unit - 0xD800) * 0x400 + (low - 0xDC00))))
        | '\\' :: 'u' :: rest' => .error (shortEscape rest')
        | _ => .error .malformed
  | '\\' :: 'u' :: rest => .error (shortEscape rest)
  | '\\' :: c :: rest =>
    match c with
    | '"' => readString rest (read.push '"')
    | '\\' => readString rest (read.push '\\')
    | '/' => readString rest (read.push '/')
    | 'b' => readString rest (read.push '\x08')
    | 'f' => readString rest (read.push '\x0c')
    | 'n' => readString rest (read.push '\n')
    | 'r' => readString rest (read.push '\r')
    | 't' => readString rest (read.push '\t')
    | _ => .error .malformed
  | ['\\'] => .error .truncated
  | c :: rest => if c.toNat < 0x20 then .error .malformed else readString rest (read.push c)
termination_by text.length

def readWord : List Char → Document → List Char → Except Fault (Document × List Char)
  | [], meaning, rest => .ok (meaning, rest)
  | _ :: _, _, [] => .error .truncated
  | expected :: word, meaning, c :: rest =>
    if c = expected then readWord word meaning rest else .error .malformed

mutual

/-- Reads a value. At most `depth` sequences and mappings may be open inside of each other; `fuel`
bounds the number of steps. -/
def readValue : Nat → Nat → List Char → Except Fault (Document × List Char)
  | 0, _, _ => .error .malformed
  | fuel + 1, depth, text =>
    match skipBlanks text with
    | [] => .error .truncated
    | 'n' :: rest => readWord ['u', 'l', 'l'] .null rest
    | 't' :: rest => readWord ['r', 'u', 'e'] (.boolean true) rest
    | 'f' :: rest => readWord ['a', 'l', 's', 'e'] (.boolean false) rest
    | '"' :: rest => do
      let (s, rest) ← readString rest ""
      return (.text s, rest)
    | '[' :: rest =>
      match depth with
      | 0 => .error .malformed
      | depth + 1 =>
        match skipBlanks rest with
        | ']' :: rest => .ok (.sequence [], rest)
        | rest => do
          let (items, rest) ← readItems fuel depth rest
          return (.sequence items, rest)
    | '\x7b' :: rest =>
      match depth with
      | 0 => .error .malformed
      | depth + 1 =>
        match skipBlanks rest with
        | '\x7d' :: rest => .ok (.mapping [], rest)
        | rest => do
          let (entries, rest) ← readEntries fuel depth rest
          -- a key that is given twice keeps its last value
          return (.mapping (Fields.ofEntries entries), rest)
    | c :: rest =>
      if c = '-' ∨ c.isDigit then do
        let (n, rest) ← readNumber (c :: rest)
        return (.number n, rest)
      else .error .malformed

def readItems : Nat → Nat → List Char → Except Fault (List Document × List Char)
  | 0, _, _ => .error .malformed
  | fuel + 1, depth, text => do
    let (item, rest) ← readValue fuel depth text
    match skipBlanks rest with
    | [] => .error .truncated
    | ']' :: rest => return ([item], rest)
    | ',' :: rest =>
      let (items, rest) ← readItems fuel depth rest
      return (item :: items, rest)
    | _ => .error .malformed

/-- Reads the entries of a mapping that is not empty, and its end. -/
def readEntries : Nat → Nat → List Char → Except Fault (List (String × Document) × List Char)
  | 0, _, _ => .error .malformed
  | fuel + 1, depth, text =>
    match skipBlanks text with
    | [] => .error .truncated
    | '"' :: rest => do
      let (key, rest) ← readString rest ""
      match skipBlanks rest with
      | [] => .error .truncated
      | ':' :: rest =>
        let (value, rest) ← readValue fuel depth rest
        match skipBlanks rest with
        | [] => .error .truncated
        | '\x7d' :: rest => return ([(key, value)], rest)
        | ',' :: rest =>
          let (entries, rest) ← readEntries fuel depth rest
          return ((key, value) :: entries, rest)
        | _ => .error .malformed
      | _ => .error .malformed
    | _ => .error .malformed

end

def maxDepth : Nat :=
  127

def readFirst (text : List Char) : Except Fault (Document × List Char) :=
  readValue (2 * text.length + 2) maxDepth text

def checkEnd (rest : List Char) : Except Fault Unit :=
  if (skipBlanks rest).isEmpty then .ok () else .error .malformed

def read (text : String) : Except Fault Document := do
  let (document, rest) ← readFirst text.toList
  checkEnd rest
  return document

end FlowPlan.Json
