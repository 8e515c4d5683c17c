/-!
# Rounding to binary digits

Whole numbers and quotients rounded to a number of significant binary digits, a half to the even
neighbour.
-/

namespace KeyApproval.Decimal

def twoTo (n : Nat) : Nat := Nat.pow 2 n

def tenTo (n : Nat) : Nat := Nat.pow 10 n

/-- The quotient rounded to the nearest whole number, a half to the even one. -/
def roundQuotient (numerator denominator : Nat) : Nat :=
  let below := numerator / denominator
  let twice := 2 * (numerator % denominator)
  if twice < denominator ∨ (twice = denominator ∧ below % 2 = 0) then below else below + 1

def bitLength (n : Nat) : Nat := if n = 0 then 0 else n.log2 + 1

/-- The number rounded to that many leading binary digits. -/
def roundToBits (bits n : Nat) : Nat :=
  let unit := twoTo (bitLength n - bits)
  roundQuotient n unit * unit

end KeyApproval.Decimal
