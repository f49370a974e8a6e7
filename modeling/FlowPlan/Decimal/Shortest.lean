import FlowPlan.Decimal.Binary

namespace FlowPlan.Decimal

inductive Tie where
  | toEven
  | upward
deriving DecidableEq

/-- The exponent of the leading decimal digit of a positive value. The binary logarithm gives it
up to one, and exact comparison settles the rest. -/
def Binary.leadingExponent (x : Binary) : Int :=
  let estimate := ((x.significand.log2 : Int) + x.exponent) * 30103 / 100000
  let reaches (e : Int) := compareScaled 1 e x.significand x.exponent != .gt
  if reaches (estimate + 1) then estimate + 1
  else if reaches estimate then estimate
  else estimate - 1

/-- The decimal with exponent `grid` that rounds to `x` and is nearest to it, if there is one.
Only the two neighbours of `x` on the grid can be nearest. -/
def Binary.nearestOnGrid (x : Binary) (tie : Tie) (grid : Int) : Option Scaled :=
  let (numerator, denominator) := x.onGrid grid
  let lower := numerator / denominator
  let below : Scaled := ⟨lower, grid⟩
  let above : Scaled := ⟨lower + 1, grid⟩
  match x.covers below, x.covers above with
  | true, false => some below
  | false, true => some above
  | false, false => none
  | true, true =>
    -- both neighbours round to the number, so the nearer one is taken
    match compare (2 * numerator) ((2 * lower + 1) * denominator), tie with
    | .lt, _ => some below
    | .gt, _ => some above
    | .eq, .upward => some above
    | .eq, .toEven => some (if lower % 2 = 0 then below else above)

/-- Moves trailing zeros of the digits into the exponent; `fuel` bounds how many. -/
def Scaled.strip : Nat → Scaled → Scaled
  | 0, d => d
  | fuel + 1, d =>
    if d.digits ≠ 0 ∧ d.digits % 10 = 0 then Scaled.strip fuel ⟨d.digits / 10, d.exponent + 1⟩
    else d

def Binary.exact (x : Binary) : Scaled :=
  ⟨x.significand * Nat.pow 2 x.exponent.toNat * Nat.pow 5 (-x.exponent).toNat, min x.exponent 0⟩

/-- The decimal with the fewest digits that rounds to `x`, the nearest of them to `x`. -/
def Binary.shortest (x : Binary) (tie : Tie) : Scaled :=
  if x.significand = 0 then ⟨0, 0⟩
  else
    let leading := x.leadingExponent
    match (List.range 17).findSome? fun (n : Nat) => x.nearestOnGrid tie (leading - n) with
    | some d => d.strip 20
    | none => x.exact

end FlowPlan.Decimal
