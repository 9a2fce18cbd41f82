import TableGateway.Number.Scientific

/-!
Double precision numbers, kept exactly: a finite one is a mantissa of at most 53 bits times a power of
two. Decimal text is rounded to the nearest of them, a tie to the even mantissa; everything is done in
natural numbers, so nothing here depends on floating point hardware.
-/

namespace TableGateway.Number

/-- A double. A finite one is `mantissa * 2 ^ exponent`; the exponent is `leastExponent`, or the
mantissa has all 53 bits. Zero keeps its sign. -/
inductive Binary64 where
  /-- What is no number. Any two of them differ, but JSON texts have a word for a single one, marked as
  `constant`, which is the same wherever it is read. -/
  | nan (constant : Bool)
  | infinite (negative : Bool)
  | finite (negative : Bool) (mantissa : Nat) (exponent : Int)
  deriving DecidableEq

namespace Binary64

def precision : Nat := 53

def leastExponent : Int := -1074

def greatestExponent : Int := 971

def zero (negative : Bool) : Binary64 := .finite negative 0 leastExponent

/-- The positive part of an exponent as a factor, so that a power of either sign multiplies one side
of a comparison. -/
def power (base : Nat) (exponent : Int) : Nat := Nat.pow base exponent.toNat

/-- The quotient rounded to the nearest integer, a tie to the even one. -/
def roundDiv (num den : Nat) : Nat :=
  let quotient := num / den
  let rest := num % den
  if den < 2 * rest ∨ (den = 2 * rest ∧ quotient % 2 = 1) then quotient + 1 else quotient

/-- The double nearest to `num / den`. -/
def ofRatio (negative : Bool) (num den : Nat) : Binary64 :=
  if num = 0 then zero negative
  else
    let guess : Int := (num.log2 : Int) - den.log2 - 52
    let short := num * power 2 (-guess) < power 2 52 * (den * power 2 guess)
    let exponent := max leastExponent (if short then guess - 1 else guess)
    let mantissa := roundDiv (num * power 2 (-exponent)) (den * power 2 exponent)
    let (mantissa, exponent) :=
      if mantissa = power 2 precision then (power 2 52, exponent + 1) else (mantissa, exponent)
    if greatestExponent < exponent then .infinite negative else .finite negative mantissa exponent

/-- The double nearest to a decimal number. Far outside the range the answer is known without the
power of ten. -/
def ofScientific (s : Scientific) : Binary64 :=
  let magnitude := (natDigits s.coefficient).length + s.exponent
  if s.coefficient = 0 ∨ magnitude < -330 then zero s.negative
  else if 310 < magnitude then .infinite s.negative
  else ofRatio s.negative (s.coefficient * power 10 s.exponent) (power 10 (-s.exponent))

def isZero : Binary64 → Bool
  | .finite _ 0 _ => true
  | _ => false

/-- A finite number as an integer, when it is one. -/
def toInt? : Binary64 → Option Int
  | .finite negative mantissa exponent =>
    let size := mantissa * power 2 exponent
    if size % power 2 (-exponent) = 0 then some (signed negative (size / power 2 (-exponent)))
    else none
  | _ => none

/-- A numeral without underscores, each of which must stand between two digits. `last` is the character
before. -/
def joinDigits? (last : Char) : List Char → Option (List Char)
  | [] => some []
  | ['_'] => none
  | '_' :: c :: rest =>
    if last.isDigit && c.isDigit then (joinDigits? c rest).map (c :: ·) else none
  | c :: rest => (joinDigits? c rest).map (c :: ·)

/-- Reads a numeral in the digits of any script, or a word for an infinity or for what is no number, in
either case. -/
def ofChars? (text : List Char) : Option Binary64 :=
  let cs := asciiDigits text
  let (negative, rest) := splitSign cs
  let word := rest.map Char.toLower
  if word = "nan".toList then some (.nan false)
  else if word = "inf".toList ∨ word = "infinity".toList then some (.infinite negative)
  else ((joinDigits? ' ' cs).bind Scientific.ofText?).map ofScientific

end Binary64

end TableGateway.Number
