import FlowPlan.Document.Basic

/-!
Reading JSON numbers. Integers that fit 64 bits stay exact; every other number is a double,
computed from at most 64 bits of its digits and one scaling by a power of ten.
-/

namespace FlowPlan.Json

inductive Fault where
  /-- The text ended too early. -/
  | truncated
  | malformed
deriving DecidableEq

def maxSignificand : Nat :=
  0xFFFFFFFFFFFFFFFF

def maxExponent : Nat :=
  0x7FFFFFFF

def digitValue (c : Char) : Nat :=
  c.toNat - '0'.toNat

/-- Scales `x` by `10 ^ exponent`. Powers up to 308 take one operation; a smaller exponent takes
steps of 308 until it is in reach or nothing is left of `x`. -/
def scaleDown : Nat → Float → Nat → Float
  | 0, x, _ => x
  | fuel + 1, x, exponent =>
    if exponent ≤ 308 then x / Float.ofScientific 1 false exponent
    else if x == 0 then x
    else scaleDown fuel (x / Float.ofScientific 1 false 308) (exponent - 308)

/-- The double `significand * 10 ^ exponent`; one that is too large is refused. -/
def assemble (negative : Bool) (significand : Nat) (exponent : Int) : Except Fault Float :=
  let x := Float.ofScientific significand false 0
  let signed (y : Float) := if negative then -y else y
  if exponent < 0 then .ok (signed (scaleDown 20 x exponent.natAbs))
  else if exponent ≤ 308 then
    let y := x * Float.ofScientific 1 false exponent.natAbs
    if y.isInf then .error .malformed else .ok (signed y)
  else if x == 0 then .ok (signed x)
  else .error .malformed

/-- Reads the digits of an exponent; `none` when they exceed `maxExponent`. -/
def exponentDigits : Nat → List Char → Option Nat × List Char
  | value, [] => (some value, [])
  | value, c :: rest =>
    if c.isDigit then
      let next := value * 10 + digitValue c
      if next > maxExponent then (none, rest.dropWhile Char.isDigit) else exponentDigits next rest
    else (some value, c :: rest)

/-- Reads an exponent, `text` being what follows its mark. -/
def readExponent (negative : Bool) (significand : Nat) (exponent : Int) (text : List Char) :
    Except Fault (Numeral × List Char) :=
  let (down, digits) := match text with
    | '+' :: rest => (false, rest)
    | '-' :: rest => (true, rest)
    | rest => (false, rest)
  match digits with
  | [] => .error .truncated
  | c :: rest =>
    if c.isDigit then
      match exponentDigits (digitValue c) rest with
      | (some value, rest) => do
        let shift : Int := if down then -value else value
        return (.real (← assemble negative significand (exponent + shift)), rest)
      | (none, rest) =>
        if significand ≠ 0 ∧ !down then .error .malformed
        else .ok (.real (if negative then -0.0 else 0.0), rest)
    else .error .malformed

def finishReal (negative : Bool) (significand : Nat) (exponent : Int) (text : List Char) :
    Except Fault (Numeral × List Char) :=
  match text with
  | 'e' :: rest => readExponent negative significand exponent rest
  | 'E' :: rest => readExponent negative significand exponent rest
  | rest => do return (.real (← assemble negative significand exponent), rest)

/-- Reads decimal places. Once the kept digits are full, further ones are skipped. -/
def readPlaces (negative : Bool) : Nat → Int → Bool → List Char → Except Fault (Numeral × List Char)
  | significand, exponent, some?, c :: rest =>
    if c.isDigit then
      let next := significand * 10 + digitValue c
      if next > maxSignificand then
        finishReal negative significand exponent (rest.dropWhile Char.isDigit)
      else readPlaces negative next (exponent - 1) true rest
    else if some? then finishReal negative significand exponent (c :: rest)
    else .error .malformed
  | significand, exponent, some?, [] =>
    if some? then finishReal negative significand exponent [] else .error .truncated

def readFraction (negative : Bool) (significand : Nat) (exponent : Int) (text : List Char) :
    Except Fault (Numeral × List Char) :=
  match text with
  | '.' :: rest => readPlaces negative significand exponent false rest
  | rest => finishReal negative significand exponent rest

/-- An exact integer, where its range allows; minus zero is a double. -/
def wholeNumber (negative : Bool) (significand : Nat) : Numeral :=
  if !negative then .integer significand
  else if significand = 0 ∨ significand > 0x8000000000000000 then
    .real (-(Float.ofScientific significand false 0))
  else .integer (-(significand : Int))

def readWhole (negative : Bool) : Nat → List Char → Except Fault (Numeral × List Char)
  | significand, [] => .ok (wholeNumber negative significand, [])
  | significand, c :: rest =>
    if c.isDigit then
      let next := significand * 10 + digitValue c
      if next > maxSignificand then
        let skipped := (c :: rest).takeWhile Char.isDigit
        readFraction negative significand skipped.length (rest.dropWhile Char.isDigit)
      else readWhole negative next rest
    else if c = '.' ∨ c = 'e' ∨ c = 'E' then readFraction negative significand 0 (c :: rest)
    else .ok (wholeNumber negative significand, c :: rest)

/-- Reads a number without its sign. A leading zero stands alone. -/
def readMagnitude (negative : Bool) (text : List Char) : Except Fault (Numeral × List Char) :=
  match text with
  | [] => .error .truncated
  | '0' :: rest =>
    if (rest.head?.map Char.isDigit).getD false then .error .malformed
    else readWhole negative 0 rest
  | c :: rest => if c.isDigit then readWhole negative (digitValue c) rest else .error .malformed

def readNumber (text : List Char) : Except Fault (Numeral × List Char) :=
  match text with
  | '-' :: rest => readMagnitude true rest
  | rest => readMagnitude false rest

end FlowPlan.Json
