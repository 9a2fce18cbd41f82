import TableGateway.Number.Binary64

/-!
The text of a double: the fewest digits that read back as the same double and, of those, the nearest.
On the grid of decimal numbers with `n` digits only the two neighbours of the exact value need to be
tried, for `n` from 1 to 17.
-/

namespace TableGateway.Number

namespace Binary64

/-- A positive value with the ends of the interval of reals that round to it, all over `den`. -/
structure Neighbourhood where
  low : Nat
  value : Nat
  high : Nat
  den : Nat
  /-- The ends themselves round to the value, which is so when the mantissa is even. -/
  closed : Bool

/-- The reals that round to `mantissa * 2 ^ exponent`. Below a power of two the doubles lie twice as
close. -/
def neighbourhood (mantissa : Nat) (exponent : Int) : Neighbourhood :=
  let unit := power 2 (exponent - 2)
  let below := if mantissa = power 2 52 ∧ leastExponent < exponent then 1 else 2
  { low := (4 * mantissa - below) * unit
    value := 4 * mantissa * unit
    high := (4 * mantissa + 2) * unit
    den := power 2 (2 - exponent)
    closed := mantissa % 2 = 0 }

/-- The decimal number `candidate * 10 ^ exponent` rounds to the value. -/
def Neighbourhood.holds (n : Neighbourhood) (candidate : Nat) (exponent : Int) : Bool :=
  let scaled := candidate * power 10 exponent * n.den
  let low := n.low * power 10 (-exponent)
  let high := n.high * power 10 (-exponent)
  if n.closed then low ≤ scaled && scaled ≤ high else low < scaled && scaled < high

/-- `10 ^ exponent` is at most the value. -/
def Neighbourhood.reaches (n : Neighbourhood) (exponent : Int) : Bool :=
  power 10 exponent * n.den ≤ n.value * power 10 (-exponent)

/-- The number of digits before the decimal point, zero or less for a value below one tenth: the
logarithm of two to five places is off by one at most. -/
def Neighbourhood.digitsBeforePoint (n : Neighbourhood) : Int :=
  let guess := ((n.value.log2 : Int) - n.den.log2 - 1) * 30103 / 100000
  let guess := if n.reaches guess then guess else guess - 1
  let guess := if n.reaches (guess + 1) then guess + 1 else guess
  guess + 1

/-- The neighbour of the value on the grid of step `10 ^ exponent` that rounds to it; of two such
neighbours the nearer, and the even one when they are equally near. -/
def Neighbourhood.onGrid? (n : Neighbourhood) (exponent : Int) : Option Nat :=
  let num := n.value * power 10 (-exponent)
  let den := n.den * power 10 exponent
  let below := num / den
  let nearest := roundDiv num den
  let other := if nearest = below then below + 1 else below
  if n.holds nearest exponent then some nearest
  else if n.holds other exponent then some other
  else none

/-- Tries finer and finer grids, the first with `digits` digits. -/
def Neighbourhood.search (n : Neighbourhood) (place : Int) : (tries digits : Nat) → Nat × Int
  | 0, digits => (n.value / n.den, digits)
  | tries + 1, digits =>
    let exponent := place - digits
    match n.onGrid? exponent with
    | some candidate => (candidate, exponent)
    | none => n.search place tries (digits + 1)

/-- The shortest decimal digits of a positive double and the place of their point: the value is
`0.digits * 10 ^ place`. -/
def shortest (mantissa : Nat) (exponent : Int) : List Char × Int :=
  let n := neighbourhood mantissa exponent
  let (candidate, step) := n.search n.digitsBeforePoint 17 1
  let digits := natDigits candidate
  ((digits.reverse.dropWhile (· == '0')).reverse, digits.length + step)

/-- How doubles are written: positionally while the leading digit stands for a power of ten from
`lowest` to below `highest`, else with an exponent of at least `exponentWidth` digits. -/
structure Layout where
  lowest : Int
  highest : Int
  exponentWidth : Nat
  nan : String
  infinity : String

/-- Numbers from 0.0001 to below 10^16 are written positionally, with a digit after the point. -/
def plainLayout : Layout := ⟨-4, 16, 2, "nan", "inf"⟩

/-- The same numerals, with the words that stand for numbers in JSON texts. -/
def jsonLayout : Layout := { plainLayout with nan := "NaN", infinity := "Infinity" }

/-- The text of a double. -/
def digits (layout : Layout) : Binary64 → List Char
  | .nan _ => layout.nan.toList
  | .infinite negative => signText negative ++ layout.infinity.toList
  | .finite negative mantissa exponent =>
    if mantissa = 0 then signText negative ++ ['0', '.', '0']
    else
      let (ds, place) := shortest mantissa exponent
      if layout.lowest < place ∧ place ≤ layout.highest then
        signText negative ++ pointAt ds place ++ (if ds.length ≤ place then ['.', '0'] else [])
      else
        signText negative ++ pointAfterFirst ds ++ 'e' :: exponentText layout.exponentWidth (place - 1)

def text (x : Binary64) : String := String.ofList (x.digits plainLayout)

end Binary64

end TableGateway.Number
