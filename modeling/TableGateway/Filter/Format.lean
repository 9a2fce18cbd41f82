import TableGateway.Filter.Key
import TableGateway.Value.Access

/-!
How filter values are written in queries. The kind of a value decides the format: texts match anywhere,
numbers and words exactly, lists as arrays, maps field by field as paths into a document. A key with an
operator uses it; a key without one gets the operator that belongs to the kind. Colons are reserved in
the values of text and list filters and are taken out.
-/

namespace TableGateway.Filter

open TableGateway.Text

/-- How a filter value is written. -/
inductive Format where
  /-- `op.*value*`, without colons. -/
  | substring
  /-- `op.value`. -/
  | plain
  /-- `is.null`, whatever the operator. -/
  | isNull
  /-- `op.{item,item}`, without colons. -/
  | array
  /-- `field->>name` with `op.*value*` for each name of a map. Names of the same text are one. -/
  | paths
  /-- The value itself, as an argument of a procedure. -/
  | untouched
  deriving DecidableEq

/-- The path from a field into a document, under the text of a name. -/
def path (field : String) (name : Value) : Except Failure (List Glyph) := do
  return glyphsOf (field ++ "->>") ++ (← name.fitting).script

/-- The parameters that a filter entry with the given key and operator becomes. -/
def Format.write (format : Format) (key : Key) (op : String) (raw : Value) : Except Failure Parameters :=
  match format with
  | .substring => do
    let t ← raw.asScalar
    return [(glyphsOf key.whole, .ofGlyphs (glyphsOf (op ++ ".*") ++ without ':' t ++ glyphsOf "*"))]
  | .plain => do
    let t ← raw.asInset
    return [(glyphsOf key.whole, .ofGlyphs (glyphsOf (op ++ ".") ++ t))]
  | .isNull => return [(glyphsOf key.whole, .text (Operator.is.word ++ ".null"))]
  | .array => do
    let items ← raw.elements
    let texts ← items.mapM Value.asScalar
    let t := without ':' ((glyphsOf ",").intercalate texts)
    return [(glyphsOf key.whole, .ofGlyphs (glyphsOf (op ++ ".\x7b") ++ t ++ glyphsOf "\x7d"))]
  | .paths =>
    match raw.pairs? with
    | none => .error .notMap
    | some pairs => do
      let written ← pairs.mapM fun pair => do
        let name ← path key.field pair.1
        let t ← pair.2.asInset
        return (name, .ofGlyphs (glyphsOf (op ++ ".*") ++ t ++ glyphsOf "*"))
      return Fields.ofPairs written
  | .untouched => return [(glyphsOf key.whole, raw)]

/-- The format and the operator of a value whose key names no operator. -/
def Kind.implicit : Kind → Format × Operator
  | .text => (.substring, .ilike)
  | .boolean => (.plain, .is)
  | .null => (.isNull, .is)
  | .number => (.plain, .eq)
  | .list => (.array, .cs)
  | .mapping => (.paths, .ilike)
  | .other => (.substring, .ilike)

/-- The format of a value whose key names an operator. -/
def Kind.explicit : Kind → Format
  | .text => .substring
  | .boolean => .plain
  | .null => .isNull
  | .number => .plain
  | .list => .array
  | .mapping => .untouched
  | .other => .substring

end TableGateway.Filter
