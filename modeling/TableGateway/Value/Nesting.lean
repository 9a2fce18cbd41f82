import TableGateway.Value

/-!
How deep the collections of a value lie inside each other. Whatever goes through a value with all that it holds
has room for `depthLimit` levels: the reader and the writer of JSON texts, and the text that shows a value.
-/

namespace TableGateway

/-- The number of collections that may lie inside each other in a value that is read, written or shown. -/
def depthLimit : Nat := 990

namespace Value

mutual

/-- How deep lists, maps and other collections lie inside each other. -/
def nesting : Value → Nat
  | .list items => itemsNesting items + 1
  | .tuple items => itemsNesting items + 1
  | .set items => itemsNesting items + 1
  | .map fields => fieldsNesting fields + 1
  | .view fields => fieldsNesting fields + 1
  | .entries pairs => pairsNesting pairs + 1
  | .tagged _ raw => nesting raw + 1
  | _ => 0

def itemsNesting : List Value → Nat
  | [] => 0
  | v :: rest => max (nesting v) (itemsNesting rest)

def fieldsNesting : List (String × Value) → Nat
  | [] => 0
  | (_, v) :: rest => max (nesting v) (fieldsNesting rest)

def pairsNesting : List (Value × Value) → Nat
  | [] => 0
  | (name, v) :: rest => max (max (nesting name) (nesting v)) (pairsNesting rest)

end

end Value

end TableGateway
