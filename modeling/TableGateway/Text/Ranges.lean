/-!
Sets of characters written as closed ranges of code points. A property of the character database is
one such table, so that membership is a plain search and stays open to proof.
-/

namespace TableGateway.Text

/-- Closed ranges of code points, each written low end first. -/
abbrev Ranges := List (Nat × Nat)

/-- Some range of the table holds the character. -/
def Ranges.contains (table : Ranges) (c : Char) : Bool :=
  table.any fun range => range.1 ≤ c.toNat && c.toNat ≤ range.2

end TableGateway.Text
