import TableGateway.Json.Reader
import TableGateway.Json.Writer
import TableGateway.Key.Registry

/-!
Identifiers of records. Under a key of one field the identifier is the value of that field. Under a
compound key it is the compact JSON array of the values, in key order, with null for absent fields;
reading it back gives the values as scalars of a query.
-/

namespace TableGateway.Key

open TableGateway.Text

/-- The value of a field; an absent field counts as null. -/
def fieldOrNull (record : Fields Value) (name : String) : Value := (record.get? name).getD .null

def identify (record : Fields Value) (key : PrimaryKey) : Except Failure Value :=
  if isCompound key then
    (Json.write Json.compact (.list (key.map (fieldOrNull record)))).map .text
  else
    match key with
    | [] => .error .noKeyField
    | name :: _ => .ok (fieldOrNull record name)

/-- The identifier of a value that should be a record. -/
def identifyValue (record : Value) (key : PrimaryKey) : Except Failure Value := do
  identify (← record.fields) key

/-- The values of an identifier in key order. Under a compound key it must be a JSON array with one value
for each field, not nested too deep. -/
def valuesOf (identifier : Value) (key : PrimaryKey) : Except Failure (List Value) :=
  if isCompound key then do
    let text := (← identifier.fitting).script
    let malformed := Failure.identifier identifier (key.map .text)
    match Json.parse depthLimit text with
    | .ok (.list values) => if values.length = key.length then return values else .error malformed
    | .error .tooDeep => .error .tooDeep
    | _ => .error malformed
  else .ok [identifier]

/-- The values of an identifier as scalars, in key order. -/
def decode (identifier : Value) (key : PrimaryKey) : Except Failure (List (List Glyph)) := do
  (← valuesOf identifier key).mapM Value.asScalar

end TableGateway.Key
