import TableGateway.Number.Scientific
import TableGateway.Text.Blank
import TableGateway.Text.Split

/-!
Integers read leniently, as callers type them. A plain numeral is an optional minus sign and ASCII
digits without zeros before them. A text that is none is tidied once and tried again: white space around
it, a plus sign, leading zeros, underscores between digits and nothing but zeros after a point may go. A
minus sign is accepted before the leading zeros or behind them, but not twice.
-/

namespace TableGateway.Number

open TableGateway.Text

/-- The sign and the digits of a plain numeral. -/
def splitMinus : List Char → Bool × List Char
  | '-' :: rest => (true, rest)
  | cs => (false, cs)

/-- A plain numeral of at most `digitLimit` digits. -/
def plainInteger? (cs : List Char) : Option Int :=
  let (negative, digits) := splitMinus cs
  let padded := digits.head? == some '0' && 1 < digits.length
  if digits.isEmpty || padded || digitLimit < digits.length || !digits.all Char.isDigit then none
  else some (signed negative (natOfDigits digits))

/-- The number of digits of the plain numeral with which a text begins. -/
def plainLength (cs : List Char) : Nat :=
  let digits := (splitMinus cs).2.takeWhile Char.isDigit
  if digits.head? == some '0' then 1 else digits.length

/-- The numeral without a plus sign, which a minus sign may not follow. -/
def dropPlus? : List Char → Option (List Char)
  | '+' :: '-' :: _ => none
  | '+' :: rest => some rest
  | cs => some cs

/-- What is left behind zeros and underscores, of which `last` was the last one: a digit or a minus sign
with all that follows, a point with `last` kept before it, or `last` alone. -/
def afterZeros? (last : Char) : List Char → Option (List Char)
  | [] => some [last]
  | c :: rest =>
    if c = '0' ∨ c = '_' then afterZeros? c rest
    else if c.isDigit ∨ c = '-' then some (c :: rest)
    else if c = '.' then some (last :: c :: rest)
    else none

/-- The numeral without leading zeros. It must begin with a digit. -/
def dropZeros? : List Char → Option (List Char)
  | '0' :: rest => afterZeros? '0' rest
  | c :: rest => if c.isDigit then some (c :: rest) else none
  | [] => none

/-- The numeral without the point and the zeros behind it. -/
def dropPlaces (cs : List Char) : List Char :=
  match cut ['.'] cs with
  | some (whole, places) => if !places.isEmpty && places.all (· == '0') then whole else cs
  | none => cs

/-- The numeral without underscores, provided that they stand one by one and inside. -/
def dropUnderscores (cs : List Char) : List Char :=
  let outside := cs.head? == some '_' || cs.getLast? == some '_'
  if outside || (cut ['_', '_'] cs).isSome then cs else cs.filter (· != '_')

/-- A text with what may go taken away. -/
def tidied? (cs : List Char) : Option (List Char) := do
  let (negative, unsigned) := splitMinus (← dropPlus? (trim isWhiteSpace cs))
  let digits := dropUnderscores (dropPlaces (← dropZeros? unsigned))
  return if negative then '-' :: digits else digits

def lenientInteger? (cs : List Char) : Option Int :=
  (plainInteger? cs).or ((tidied? cs).bind plainInteger?)

end TableGateway.Number
