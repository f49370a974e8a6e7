import FlowPlan.Text.Digit

namespace FlowPlan.Decimal

/-- Beyond this power of ten a decimal is infinite, and below its inverse it is zero. -/
def maxPower : Int :=
  400

def nearest (digits : Nat) (exponent : Int) : Float :=
  let size : Int := (Nat.toDigits 10 digits).length
  if digits = 0 ∨ exponent + size < -maxPower then 0.0
  else if exponent + size > maxPower then 1.0 / 0.0
  else if exponent < 0 then Float.ofScientific digits true exponent.natAbs
  else Float.ofScientific digits false exponent.natAbs

/-- Splits a sign off; it is negative or not. -/
def splitSign : List Char → Bool × List Char
  | '-' :: rest => (true, rest)
  | '+' :: rest => (false, rest)
  | rest => (false, rest)

/-- The exponent at the end of a decimal; none is written as nothing. -/
def exponent? : List Char → Option Int
  | [] => some 0
  | c :: rest =>
    if c = 'e' ∨ c = 'E' then
      let (down, digits) := splitSign rest
      (Text.number? 10 digits).map fun n => if down then -(n : Int) else n
    else none

def splitPlaces : List Char → List Char × List Char
  | '.' :: rest => rest.span Char.isDigit
  | rest => ([], rest)

/-- Reads a decimal: a sign, digits on one side of a point at least, and an exponent. The sign, the
point and the exponent may be left out. -/
def read? (text : List Char) : Option Float := do
  let (negative, rest) := splitSign text
  let (whole, rest) := rest.span Char.isDigit
  let (places, rest) := splitPlaces rest
  let exponent ← exponent? rest
  let digits ← Text.number? 10 (whole ++ places)
  let magnitude := nearest digits (exponent - places.length)
  return if negative then -magnitude else magnitude

end FlowPlan.Decimal
