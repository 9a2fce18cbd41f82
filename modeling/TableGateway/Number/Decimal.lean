import TableGateway.Number.Scientific
import TableGateway.Text.Blank

/-!
Decimal numbers of any length, which keep the digits they were given: 1.10 and 1.1 are equal in value
and differ in text.
-/

namespace TableGateway.Number

open TableGateway.Text

/-- A decimal number, an infinity, or not a number. -/
inductive Decimal where
  | finite (value : Scientific)
  | infinite (negative : Bool)
  | nan (negative signalling : Bool) (payload : List Char)
  deriving DecidableEq

namespace Decimal

/-- The greatest power of ten that the first digit of a number may stand for. -/
def topExponent : Int := 999999999999999999

/-- The least power of ten that the last digit of a number may stand for. -/
def bottomExponent : Int := -1999999999999999997

/-- The number can be held: neither end of its digits lies too far from the point. -/
def isHeld (s : Scientific) : Bool :=
  s.exponent + ((natDigits s.coefficient).length - 1 : Nat) ≤ topExponent
    && bottomExponent ≤ s.exponent

/-- Reads a numeral in the digits of any script with blanks around it, or a word for an infinity or for
what is no number, in either case. Underscores count nowhere. -/
def ofText? (text : String) : Option Decimal :=
  let cs := asciiDigits ((trim isBlank text.toList).filter (· != '_'))
  let (negative, rest) := splitSign cs
  let word := rest.map Char.toLower
  let payload (digits : List Char) := digits.dropWhile (· == '0')
  if word = "inf".toList ∨ word = "infinity".toList then some (.infinite negative)
  else if "nan".toList.isPrefixOf word && (word.drop 3).all (·.isDigit) then
    some (.nan negative false (payload (word.drop 3)))
  else if "snan".toList.isPrefixOf word && (word.drop 4).all (·.isDigit) then
    some (.nan negative true (payload (word.drop 4)))
  else ((Scientific.ofText? cs).filter isHeld).map .finite

/-- Positional while the exponent is not positive and at most five zeros follow the point; else one
digit before the point and an exponent. -/
def finiteDigits (s : Scientific) : List Char :=
  let ds := natDigits s.coefficient
  let place := ds.length + s.exponent
  signText s.negative ++
    if s.exponent ≤ 0 ∧ -6 < place then pointAt ds place
    else pointAfterFirst ds ++ 'E' :: exponentText 1 (place - 1)

def text : Decimal → String
  | .finite s => String.ofList (finiteDigits s)
  | .infinite negative => String.ofList (signText negative ++ "Infinity".toList)
  | .nan negative signalling payload =>
    String.ofList
      (signText negative ++ (if signalling then ['s'] else []) ++ "NaN".toList ++ payload)

def isZero : Decimal → Bool
  | .finite s => s.coefficient == 0
  | _ => false

/-- A finite decimal as an integer, when it is one. Behind the point of an integer stand zeros only, so
that one that is not zero has fewer places than digits. -/
def toInt? : Decimal → Option Int
  | .finite s =>
    let places := (-s.exponent).toNat
    if s.coefficient = 0 then some 0
    else if (natDigits s.coefficient).length ≤ places then none
    else if s.coefficient % Nat.pow 10 places = 0 then
      some (signed s.negative (s.coefficient * Nat.pow 10 s.exponent.toNat / Nat.pow 10 places))
    else none
  | _ => none

end Decimal

end TableGateway.Number
