import FlowPlan.Decimal.Shortest

namespace FlowPlan.Decimal

structure Layout where
  /-- Lowest and highest exponent of the leading digit that is written without an exponent;
  no bounds means that an exponent is never written. -/
  positional : Option (Int × Int)
  /-- Whole numbers in positional form end in `.0`. -/
  pointZero : Bool
  /-- Positive exponents carry a plus sign. -/
  plus : Bool
  tie : Tie
  notANumber : String
  infinity : String

def digitText (n : Nat) : String :=
  String.ofList (Nat.toDigits 10 n)

/-- A decimal without exponent, in one of three shapes: the point after the digits, among them, or
before them. -/
def positionalText (layout : Layout) (d : Scaled) : String :=
  let digits := Nat.toDigits 10 d.digits
  if 0 ≤ d.exponent then
    String.ofList (digits ++ List.replicate d.exponent.toNat '0') ++
      (if layout.pointZero then ".0" else "")
  else
    let places := (-d.exponent).toNat
    if places < digits.length then
      String.ofList (digits.take (digits.length - places)) ++ "." ++
        String.ofList (digits.drop (digits.length - places))
    else
      "0." ++ String.ofList (List.replicate (places - digits.length) '0' ++ digits)

def scientificText (layout : Layout) (d : Scaled) (leading : Int) : String :=
  let digits := Nat.toDigits 10 d.digits
  let mantissa := String.ofList (digits.take 1) ++
    (if digits.length > 1 then "." ++ String.ofList (digits.drop 1) else "")
  let sign := if leading < 0 then "-" else if layout.plus then "+" else ""
  mantissa ++ "e" ++ sign ++ digitText leading.natAbs

def decimalText (layout : Layout) (d : Scaled) : String :=
  let leading := d.exponent + (Nat.toDigits 10 d.digits).length - 1
  match layout.positional with
  | none => positionalText layout d
  | some (low, high) =>
    if d.digits = 0 ∨ (low ≤ leading ∧ leading ≤ high) then positionalText layout d
    else scientificText layout d leading

/-- The text of a double: the fewest digits that read back to it. -/
def Layout.text (layout : Layout) (x : Float) : String :=
  if x.isNaN then layout.notANumber
  else
    let sign := if x.toBits >>> 63 = 1 then "-" else ""
    if x.isInf then sign ++ layout.infinity
    else sign ++ decimalText layout ((Binary.ofBits x.toBits).shortest layout.tie)

/-- Numbers in messages: every digit is written out, and whole numbers have no point. -/
def Layout.plain : Layout where
  positional := none
  pointZero := false
  plus := false
  tie := .upward
  notANumber := "NaN"
  infinity := "inf"

end FlowPlan.Decimal
