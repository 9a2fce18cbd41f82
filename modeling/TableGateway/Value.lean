import TableGateway.Fields
import TableGateway.Filter.Kind
import TableGateway.Number.Decimal
import TableGateway.Number.Shortest
import TableGateway.Operator
import TableGateway.Text.Glyph

/-!
Loosely typed values: what filters, records, identifiers and parameters hold before anything is known
about them. The JSON values are among them; the others come from callers and have no JSON form.
-/

namespace TableGateway

open TableGateway.Number TableGateway.Text

/-- A value of unknown type. -/
inductive Value where
  | null
  | bool (value : Bool)
  | int (value : Int)
  | float (value : Binary64)
  | decimal (value : Decimal)
  | text (value : String)
  /-- A text with lone surrogates, which is no text that can be sent. -/
  | broken (glyphs : List Glyph)
  /-- The UTF-8 bytes of a text. -/
  | bytes (value : String)
  | list (items : List Value)
  | tuple (items : List Value)
  | set (items : List Value)
  /-- Named values in order; no name occurs twice in a value that was built by setting fields. -/
  | map (fields : List (String × Value))
  /-- Values under names of any kind, at least one of them no text. -/
  | entries (pairs : List (Value × Value))
  /-- A view of a map, which can be looked into like the map, but is no map that could be changed or written. -/
  | view (fields : List (String × Value))
  | operator (value : Operator)
  /-- A value whose kind as a filter was decided beforehand, and need not match the value. -/
  | tagged (kind : Filter.Kind) (raw : Value)
  /-- Something of which only the text is known. -/
  | foreign (name : String)

namespace Value

/-- Null, false, zero and empty values: where a value is optional these count as none. -/
def isVoid : Value → Bool
  | .null => true
  | .bool b => !b
  | .int n => n == 0
  | .float x => x.isZero
  | .decimal d => d.isZero
  | .text s => s.isEmpty
  | .broken glyphs => glyphs.isEmpty
  | .bytes s => s.isEmpty
  | .list items => items.isEmpty
  | .tuple items => items.isEmpty
  | .set items => items.isEmpty
  | .map fields => fields.isEmpty
  | .entries pairs => pairs.isEmpty
  | .view fields => fields.isEmpty
  | .operator _ => false
  | .tagged _ _ => false
  | .foreign _ => false

/-- The text of the given glyphs. -/
def ofGlyphs (glyphs : List Glyph) : Value := (textOf? glyphs).elim (.broken glyphs) .text

def ofChars (s : String) : List Value := s.toList.map fun c => .text (String.ofList [c])

/-- What a value yields when it is gone through one by one: items, characters, byte values or field
names. Other values cannot be gone through. -/
def elements? : Value → Option (List Value)
  | .list items => some items
  | .tuple items => some items
  | .set items => some items
  | .map fields => some (fields.map fun field => .text field.1)
  | .entries pairs => some (pairs.map (·.1))
  | .view fields => some (fields.map fun field => .text field.1)
  | .text s => some (ofChars s)
  | .broken glyphs => some (glyphs.map fun glyph => ofGlyphs [glyph])
  | .operator op => some (ofChars op.word)
  | .bytes s => some (s.toUTF8.toList.map fun byte => .int byte.toNat)
  | _ => none

/-- The text of a value that is one; an operator counts by its word. -/
def text? : Value → Option String
  | .text s => some s
  | .operator op => some op.word
  | _ => none

/-- The fields of a map, those whose names are texts. -/
def fields? : Value → Option (Fields Value)
  | .map fields => some fields
  | .entries pairs => some (pairs.filterMap fun pair => pair.1.text?.map (·, pair.2))
  | .view fields => some fields
  | _ => none

/-- The kind of a value as a filter. -/
def kind : Value → Filter.Kind
  | .null => .null
  | .bool _ => .boolean
  | .text _ => .text
  | .broken _ => .text
  | .operator _ => .text
  | .int _ => .number
  | .float _ => .number
  | .decimal _ => .number
  | .list _ => .list
  | .tuple _ => .list
  | .set _ => .list
  | .map _ => .mapping
  | .entries _ => .mapping
  | .view _ => .mapping
  | .tagged kind _ => kind
  | .bytes _ => .other
  | .foreign _ => .other

/-- The value itself, without a kind decided beforehand. -/
def raw : Value → Value
  | .tagged _ raw => raw
  | v => v

end Value

end TableGateway
