import TableGateway.Key.Identifier

/-!
Records as callers see them: a copy of the row with the identifier under one generic field, whatever
the key of the resource.
-/

namespace TableGateway.Record

def defaultIdField : String := "id"

/-- A copy of the record with its identifier in the generic field. When that field is the key, the
copy is left as it is. -/
def withId (record : Value) (key : PrimaryKey) (idField : String) : Except Failure Value := do
  let copy ← record.asRecord
  if key = [idField] then return copy
  else return copy.put idField (← Key.identifyValue record key)

/-- The key fields that the record has, in key order. -/
def keyFields (key : PrimaryKey) (record : Value) : Except Failure (Fields Value) := do
  let found ← key.mapM fun name => do return (name, ← record.find? name)
  return Fields.ofPairs (found.filterMap fun field => field.2.map (field.1, ·))

/-- The fields to send for a change: the generic field is left out unless it belongs to the key. -/
def withoutId (record : Fields Value) (key : PrimaryKey) (idField : String) : Fields Value :=
  if idField ∈ key then record else record.erase idField

end TableGateway.Record
