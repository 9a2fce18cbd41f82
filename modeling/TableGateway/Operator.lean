/-!
The operators of the query grammar, and the two directions of a sort. Each has a name, by which a
program refers to it, and a word, which stands in queries.
-/

namespace TableGateway

/-- The operators that may stand before a value in `column=op.value`. -/
inductive Operator where
  | eq | neq | gt | gte | lt | lte | in | is
  | like | ilike | match | imatch
  | fts | plfts | phfts | wfts
  | cs | cd | ov | sl | sr | nxr | nxl | adj
  | and | or | not
  deriving DecidableEq

namespace Operator

/-- Comparison, patterns, full-text search, arrays and ranges, logic: the order of definition. -/
def all : List Operator :=
  [.eq, .neq, .gt, .gte, .lt, .lte, .in, .is, .like, .ilike, .match, .imatch, .fts, .plfts, .phfts,
   .wfts, .cs, .cd, .ov, .sl, .sr, .nxr, .nxl, .adj, .and, .or, .not]

def word : Operator → String
  | .eq => "eq" | .neq => "neq" | .gt => "gt" | .gte => "gte" | .lt => "lt" | .lte => "lte"
  | .in => "in" | .is => "is" | .like => "like" | .ilike => "ilike" | .match => "match"
  | .imatch => "imatch" | .fts => "fts" | .plfts => "plfts" | .phfts => "phfts" | .wfts => "wfts"
  | .cs => "cs" | .cd => "cd" | .ov => "ov" | .sl => "sl" | .sr => "sr" | .nxr => "nxr"
  | .nxl => "nxl" | .adj => "adj" | .and => "and" | .or => "or" | .not => "not"

/-- The name of an operator is its word in capitals. -/
def name (op : Operator) : String := op.word.map Char.toUpper

def ofWord? (word : String) : Option Operator := all.find? (·.word == word)

def ofName? (name : String) : Option Operator := all.find? (·.name == name)

/-- An operator as it appears when it is itself printed. -/
def qualifiedName (op : Operator) : String := "PostgrestOperator." ++ op.name

end Operator

inductive Direction where
  | ascending
  | descending
  deriving DecidableEq

namespace Direction

def all : List Direction := [.ascending, .descending]

/-- The name of a direction, which is also how it is given and stored. -/
def name : Direction → String
  | .ascending => "ASC"
  | .descending => "DESC"

def word : Direction → String
  | .ascending => "asc"
  | .descending => "desc"

def ofName? (name : String) : Option Direction := all.find? (·.name == name)

end Direction

end TableGateway
