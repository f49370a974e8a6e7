namespace FlowPlan.Text

def digit? (base : Nat) (c : Char) : Option Nat :=
  let value :=
    if '0' ≤ c ∧ c ≤ '9' then c.toNat - '0'.toNat
    else if 'a' ≤ c ∧ c ≤ 'f' then c.toNat - 'a'.toNat + 10
    else if 'A' ≤ c ∧ c ≤ 'F' then c.toNat - 'A'.toNat + 10
    else base
  if value < base then some value else none

def numberAfter? (base : Nat) : Nat → List Char → Option Nat
  | high, [] => some high
  | high, c :: rest => do numberAfter? base (high * base + (← digit? base c)) rest

/-- The number that a text of digits writes; there has to be a digit. -/
def number? (base : Nat) : List Char → Option Nat
  | [] => none
  | digits => numberAfter? base 0 digits

def char? (code : Nat) : Option Char :=
  if code.isValidChar then some (Char.ofNat code) else none

end FlowPlan.Text
