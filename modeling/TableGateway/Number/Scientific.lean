import TableGateway.Number.Numeral

/-!
Numerals with a decimal point and an exponent, as an exact coefficient and a power of ten, and the
two ways such a number is laid out as text.
-/

namespace TableGateway.Number

/-- `coefficient * 10 ^ exponent` with a sign, which zero keeps. -/
structure Scientific where
  negative : Bool
  coefficient : Nat
  exponent : Int
  deriving DecidableEq

def natOfDigits (cs : List Char) : Nat := Nat.ofDigitChars 10 cs 0

/-- The exponent behind its letter, with an optional sign; no exponent at all is zero. -/
def exponentPart? : List Char → Option Int
  | [] => some 0
  | c :: cs =>
    let (negative, digits) := splitSign cs
    if (c = 'e' || c = 'E') && !digits.isEmpty && digits.all (·.isDigit) then
      some (signed negative (natOfDigits digits))
    else none

/-- Reads `[sign] digits [. digits] [e [sign] digits]`, with a digit before the exponent. -/
def Scientific.ofText? (cs : List Char) : Option Scientific :=
  let (negative, rest) := splitSign cs
  let whole := rest.takeWhile (·.isDigit)
  let rest := rest.dropWhile (·.isDigit)
  let (fraction, rest) :=
    match rest with
    | '.' :: after => (after.takeWhile Char.isDigit, after.dropWhile Char.isDigit)
    | _ => ([], rest)
  if whole.isEmpty && fraction.isEmpty then none
  else
    (exponentPart? rest).map fun exponent =>
      ⟨negative, natOfDigits (whole ++ fraction), exponent - fraction.length⟩

/-- The sign of a number as text: nothing when it is not negative. -/
def signText (negative : Bool) : List Char := if negative then ['-'] else []

/-- Digits with the point after the first `place` of them, which may lie outside the digits. Zeros
fill the gap; no point is written at the right end. -/
def pointAt (digits : List Char) (place : Int) : List Char :=
  if place ≤ 0 then '0' :: '.' :: List.replicate (-place).toNat '0' ++ digits
  else if digits.length ≤ place then digits ++ List.replicate (place - digits.length).toNat '0'
  else digits.take place.toNat ++ '.' :: digits.drop place.toNat

/-- One digit, a point when more follow, the other digits. -/
def pointAfterFirst : List Char → List Char
  | [] => []
  | [d] => [d]
  | d :: rest => d :: '.' :: rest

/-- The exponent with its sign and at least `width` digits. -/
def exponentText (width : Nat) (exponent : Int) : List Char :=
  let digits := natDigits exponent.natAbs
  (if exponent < 0 then '-' else '+') :: List.replicate (width - digits.length) '0' ++ digits

end TableGateway.Number
