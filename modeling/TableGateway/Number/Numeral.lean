import TableGateway.Text.Digit

/-!
Decimal numerals. Writing uses plain ASCII digits. Reading takes the digits of any script, as they may
stand in a header, and allows a single underscore between two digits. Numerals of more than `digitLimit`
digits are neither written nor read.
-/

namespace TableGateway.Number

open TableGateway.Text

/-- The most digits that a numeral may have. -/
def digitLimit : Nat := 4300

def natDigits (n : Nat) : List Char := Nat.toDigits 10 n

/-- The decimal numeral of an integer, with a minus sign when negative. -/
def intDigits : Int → List Char
  | .ofNat n => natDigits n
  | .negSucc n => '-' :: natDigits (n + 1)

def intText (n : Int) : String := String.ofList (intDigits n)

/-- The numeral of the integer has at most `digitLimit` digits. -/
def withinDigitLimit (n : Int) : Bool := n.natAbs < Nat.pow 10 digitLimit

/-- The number that a list of digit values denotes, high digit first. -/
def ofDigitValues (values : List Nat) : Nat := values.foldl (fun n v => 10 * n + v) 0

/-- The text with the digits of any script turned into ASCII digits. -/
def asciiDigits (cs : List Char) : List Char :=
  cs.map fun c => (digitValue? c).elim c Nat.digitChar

/-- One or more digits, with at most one underscore between two of them. -/
def digitRun? : List Char → Option (List Nat)
  | [] => none
  | [c] => (digitValue? c).map ([·])
  | c :: '_' :: rest => do return (← digitValue? c) :: (← digitRun? rest)
  | c :: rest => do return (← digitValue? c) :: (← digitRun? rest)

/-- An optional sign before the rest of a numeral; `true` stands for minus. -/
def splitSign : List Char → Bool × List Char
  | '-' :: rest => (true, rest)
  | '+' :: rest => (false, rest)
  | rest => (false, rest)

def signed (negative : Bool) (size : Nat) : Int := if negative then -size else size

/-- An integer numeral in the digits of any script. -/
def integer? (cs : List Char) : Option Int :=
  let (negative, rest) := splitSign cs
  match digitRun? rest with
  | none => none
  | some values =>
    if values.length ≤ digitLimit then some (signed negative (ofDigitValues values)) else none

end TableGateway.Number
