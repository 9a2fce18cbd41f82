import TableGateway.Filter.Format

/-!
From filters to query parameters. Each entry of a filter contributes one parameter under its whole key,
or one for each name of a map; the contributions are set one after the other.
-/

namespace TableGateway.Filter

/-- How the filters of a service are written. The default operator is kept for callers to read: numbers
without an operator of their own always match by `eq`. -/
structure Scheme where
  defaultOperator : Value
  separator : String

namespace Scheme

/-- The scheme with the given default operator, itself or by its word. -/
def ofOperator (op : Value) (separator : String) : Scheme :=
  match op with
  | .operator op => ⟨.text op.word, separator⟩
  | op => ⟨op, separator⟩

/-- The parameters that one filter entry contributes. -/
def entry (scheme : Scheme) (name : String) (v : Value) : Except Failure Parameters := do
  let key ← Key.parse scheme.separator name
  match key.operator with
  | none => v.kind.implicit.1.write key v.kind.implicit.2.word v.raw
  | some op => v.kind.explicit.write key op v.raw

/-- The parameters of a whole filter: what its entries contribute, where a later entry sets a
parameter again. -/
def parameters (scheme : Scheme) (filter : Fields Value) : Except Failure Parameters := do
  let parts ← filter.mapM fun field => scheme.entry field.1 field.2
  return Fields.ofPairs parts.flatten

end Scheme

/-- An entry of a filter, whose name must be a text. -/
def entryOf (pair : Value × Value) : Except Failure (String × Value) :=
  match pair.1.text? with
  | some name => .ok (name, pair.2)
  | none => .error .notMap

/-- The entries of a value given as a filter: a void one has none. -/
def entriesOf (v : Value) : Except Failure (Fields Value) :=
  if v.isVoid then .ok []
  else
    match v.pairs? with
    | some pairs => pairs.mapM entryOf
    | none => .error .notMap

end TableGateway.Filter
