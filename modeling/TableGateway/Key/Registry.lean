import TableGateway.Value.Access

/-!
Primary keys: the ordered field names by which the rows of a resource are addressed, and the registry
that holds those of the resources known to differ from the standard key.
-/

namespace TableGateway

abbrev PrimaryKey := List String

namespace Key

/-- The key of a resource about which nothing is said. -/
def standard : PrimaryKey := ["id"]

/-- A key of several fields. -/
def isCompound (key : PrimaryKey) : Bool := 1 < key.length

/-- The fields that a value names as a key: a text alone, or what a collection yields. -/
def fieldsOf (v : Value) : Except Failure (List Value) :=
  match v with
  | .text _ => .ok [v]
  | .operator _ => .ok [v]
  | v => v.elements

/-- Keys by resource, each an ordered list of fields. The name of a resource may be any value. -/
structure Registry (α : Type) where
  keys : List (Value × List α)

namespace Registry

variable {α : Type}

def empty : Registry α := ⟨[]⟩

/-- The key of a resource that has one of its own. -/
def get? (registry : Registry α) (resource : String) : Option (List α) :=
  (registry.keys.find? fun entry => entry.1.text? == some resource).map (·.2)

/-- The key of a resource, the given one when it has none of its own. -/
def forResource (registry : Registry α) (standard : List α) (resource : String) : List α :=
  (registry.get? resource).getD standard

/-- The key of one resource, which must have a field. -/
def checked (entry : Value × List α) : Except Failure (Value × List α) :=
  if entry.2.isEmpty then .error (.emptyKeyOf entry.1) else .ok entry

/-- The key named for one resource. -/
def entryOf (entry : Value × Value) : Except Failure (Value × List Value) := do
  checked (entry.1, ← fieldsOf entry.2)

/-- The registry that a value describes. A void value describes the empty one. -/
def ofValue (v : Value) : Except Failure (Registry Value) :=
  if v.isVoid then .ok empty
  else do
    match v.pairs? with
    | some entries => return ⟨← entries.mapM entryOf⟩
    | none => .error .notMap

def literal (toValue : α → Value) (registry : Registry α) : String :=
  let keys := registry.keys.map fun entry => (entry.1, Value.tuple (entry.2.map toValue))
  "PrimaryKeyRegistry(" ++ (Value.ofPairs keys).literal ++ ")"

end Registry

/-- The key of a resource by a registry that may be missing. -/
def keyFor {α : Type} (registry : Option (Registry α)) (standard : List α) (resource : String) :
    List α :=
  match registry with
  | none => standard
  | some registry => (registry.get? resource).getD standard

end Key

end TableGateway
