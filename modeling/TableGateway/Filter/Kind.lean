/-!
The kinds of value that a filter tells apart when it chooses an operator.
-/

namespace TableGateway.Filter

/-- What a filter value is, for the choice of its operator and format. -/
inductive Kind where
  | text | boolean | null | number | list | mapping | other
  deriving DecidableEq

namespace Kind

def all : List Kind := [.text, .boolean, .null, .number, .list, .mapping, .other]

def word : Kind → String
  | .text => "text" | .boolean => "boolean" | .null => "null" | .number => "number"
  | .list => "list" | .mapping => "mapping" | .other => "other"

/-- The name of a kind is its word in capitals. -/
def name (kind : Kind) : String := kind.word.map Char.toUpper

def ofWord? (word : String) : Option Kind := all.find? (·.word == word)

end Kind

end TableGateway.Filter
