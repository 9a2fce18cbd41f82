import TableGateway.Form
import TableGateway.Json.Writer
import TableGateway.Value.Access

/-!
Queries from parameters of any kind: maps are sent as JSON, everything else as plain text. Lone surrogates are
refused here, when the query is written out, and nowhere before.
-/

namespace TableGateway.Query

open TableGateway.Text

/-- Maps become their JSON text; other parameters stay as they are. -/
def sent (v : Value) : Except Failure Value :=
  match v with
  | .map _ | .entries _ | .view _ => (Json.write Json.spaced v).map .text
  | v => .ok v

/-- The text of a parameter, which cannot have lone surrogates; bytes are sent as they are. -/
def parameterText (v : Value) : Except Failure String :=
  match v with
  | .bytes s => .ok s
  | .broken _ => .error .loneSurrogate
  | v => v.fitting.map Value.display

/-- The query of parameters whose names are values of any kind. -/
def encodePairs (pairs : List (Value × Value)) : Except Failure String := do
  let plain ← pairs.mapM fun pair => do return (pair.1, ← sent pair.2)
  let texts ← plain.mapM fun pair => do return (← parameterText pair.1, ← parameterText pair.2)
  return Form.encode texts

/-- Parameters as pairs of values. -/
def asPairs (parameters : Parameters) : List (Value × Value) :=
  parameters.map fun parameter => (.ofGlyphs parameter.1, parameter.2)

def encode (parameters : Parameters) : Except Failure String := encodePairs (asPairs parameters)

/-- The parameters of texts under texts. -/
def ofTexts (fields : Fields (List Glyph)) : Parameters :=
  fields.map fun field => (glyphsOf field.1, .ofGlyphs field.2)

end TableGateway.Query
