import TableGateway.Number.Binary64
import TableGateway.Number.Decimal

/-!
Exact comparison of numbers of different kinds. Every double is a decimal number, and a decimal number has
one reduced form, so that two numbers have the same amount exactly when their reduced forms agree.
-/

namespace TableGateway.Number

/-- The same amount without zeros at the end of the coefficient, and zero in one form. -/
def Scientific.reduced (s : Scientific) : Scientific :=
  let digits := natDigits s.coefficient
  let kept := (digits.reverse.dropWhile (· == '0')).reverse
  if kept.isEmpty then ⟨false, 0, 0⟩
  else ⟨s.negative, natOfDigits kept, s.exponent + (digits.length - kept.length : Nat)⟩

/-- The reduced form of a decimal number; what is no number has none. -/
def Decimal.reduced? : Decimal → Option Decimal
  | .finite s => some (.finite s.reduced)
  | .infinite negative => some (.infinite negative)
  | .nan _ _ _ => none

def Decimal.ofInt (n : Int) : Decimal := .finite ⟨n < 0, n.natAbs, 0⟩

/-- A double as a decimal number: a division by a power of two is a multiplication by the same power of
five, with the point moved. -/
def Binary64.toDecimal : Binary64 → Decimal
  | .nan _ => .nan false false []
  | .infinite negative => .infinite negative
  | .finite negative mantissa exponent =>
    .finite ⟨negative, mantissa * power 2 exponent * power 5 (-exponent), min exponent 0⟩

end TableGateway.Number
