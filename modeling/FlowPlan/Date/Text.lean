import FlowPlan.Date.Basic
import FlowPlan.Text.Blank
import FlowPlan.Decimal.Layout

namespace FlowPlan.Date

def padded (width n : Nat) : List Char :=
  let digits := Nat.toDigits 10 n
  List.replicate (width - digits.length) '0' ++ digits

/-- Years from 0 to 9999 have four digits; all others carry a sign. -/
def yearText (year : Int) : List Char :=
  if 0 ≤ year ∧ year ≤ 9999 then padded 4 year.natAbs
  else (if year < 0 then '-' else '+') :: padded 4 year.natAbs

def text (d : Date) : String :=
  String.ofList (yearText d.year ++ '-' :: padded 2 d.month ++ '-' :: padded 2 d.day)

inductive Fault where
  | invalid
  | tooShort
  | outOfRange
  | trailing
deriving DecidableEq

def Fault.message : Fault → String
  | .invalid => "input contains invalid characters"
  | .tooShort => "premature end of input"
  | .outOfRange => "input is out of range"
  | .trailing => "trailing input"

def maxNumber : Nat :=
  0x7FFFFFFFFFFFFFFF

def skipBlanks (text : List Char) : List Char :=
  text.dropWhile Text.isBlank

def moreDigits : Nat → Nat → List Char → Except Fault (Nat × List Char)
  | 0, value, rest => .ok (value, rest)
  | _ + 1, value, [] => .ok (value, [])
  | limit + 1, value, c :: rest =>
    if c.isDigit then
      let next := value * 10 + (c.toNat - '0'.toNat)
      if next > maxNumber then .error .outOfRange else moreDigits limit next rest
    else .ok (value, c :: rest)

def readNumber (limit : Nat) : List Char → Except Fault (Nat × List Char)
  | [] => .error .tooShort
  | c :: rest => if c.isDigit then moreDigits limit 0 (c :: rest) else .error .invalid

/-- Reads a year: without a sign it has at most four digits. -/
def readYear (text : List Char) : Except Fault (Int × List Char) :=
  match skipBlanks text with
  | '-' :: rest => do
    let (n, rest') ← readNumber rest.length rest
    return (-(n : Int), rest')
  | '+' :: rest => do
    let (n, rest') ← readNumber rest.length rest
    return ((n : Int), rest')
  | rest => do
    let (n, rest') ← readNumber 4 rest
    return ((n : Int), rest')

def readPart (highest : Nat) (text : List Char) : Except Fault (Nat × List Char) := do
  let (n, rest) ← readNumber 2 (skipBlanks text)
  if 1 ≤ n ∧ n ≤ highest then return (n, rest) else .error .outOfRange

def readDash (text : List Char) : Except Fault (List Char) :=
  match skipBlanks text with
  | [] => .error .tooShort
  | c :: rest => if c = '-' then .ok rest else .error .invalid

/-- Reads a date. Blanks may stand before each number and dash and at the end. -/
def read (text : String) : Except Fault Date := do
  let (year, rest) ← readYear text.toList
  if year < -0x80000000 ∨ 0x80000000 ≤ year then .error .outOfRange
  let rest ← readDash rest
  let (month, rest) ← readPart 12 rest
  let rest ← readDash rest
  let (day, rest) ← readPart 31 rest
  if (skipBlanks rest).isEmpty then
    match ofParts? year month day with
    | some d => return d
    | none => .error .outOfRange
  else .error .trailing

end FlowPlan.Date
