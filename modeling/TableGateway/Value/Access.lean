import TableGateway.Failure
import TableGateway.Text.Split
import TableGateway.Value.Names
import TableGateway.Value.Nesting

/-!
Using a value as something in particular, with the failure that it is not that: its text, its items,
its fields, a record made of it. A text can be made of a value that has no integer of more than `digitLimit`
digits and no more than `depthLimit` levels of collections.
-/

namespace TableGateway.Value

open TableGateway.Number TableGateway.Text

mutual

/-- The value has a text, and its collections lie at most `depth` levels deep. What keeps it from having one is met
in the order in which the text is made. -/
def inspect : Value → (depth : Nat) → Except Failure Unit
  | .int n, _ => if withinDigitLimit n then .ok () else .error .integerTooLong
  | .list items, depth => deeper depth (inspectItems items)
  | .tuple items, depth => deeper depth (inspectItems items)
  | .set items, depth => deeper depth (inspectItems items)
  | .map fields, depth => deeper depth (inspectFields fields)
  | .view fields, depth => deeper depth (inspectFields fields)
  | .entries pairs, depth => deeper depth (inspectPairs pairs)
  | .tagged _ raw, depth => deeper depth (inspect raw)
  | _, _ => .ok ()

def inspectItems : List Value → (depth : Nat) → Except Failure Unit
  | [], _ => .ok ()
  | v :: rest, depth => do
    inspect v depth
    inspectItems rest depth

def inspectFields : List (String × Value) → (depth : Nat) → Except Failure Unit
  | [], _ => .ok ()
  | (_, v) :: rest, depth => do
    inspect v depth
    inspectFields rest depth

def inspectPairs : List (Value × Value) → (depth : Nat) → Except Failure Unit
  | [], _ => .ok ()
  | (name, v) :: rest, depth => do
    inspect name depth
    inspect v depth
    inspectPairs rest depth

end

/-- The value, provided that it has a text. -/
def fitting (v : Value) : Except Failure Value := (v.inspect depthLimit).map fun () => v

def asScalar (v : Value) : Except Failure (List Glyph) := v.fitting.map scalar

def asInset (v : Value) : Except Failure (List Glyph) := v.fitting.map inset

mutual

/-- The value as plain data, in which a value with a kind decided beforehand is a map of the two. A set
cannot hold what becomes a map. -/
def plain : Value → Except Failure Value
  | .tagged kind raw =>
    (plain raw).map fun raw => .map [("kind", .text kind.word), ("raw", raw)]
  | .list items => (plainItems items).map .list
  | .tuple items => (plainItems items).map .tuple
  | .set items =>
    (plainItems items).bind fun items => if allNames items then .ok (.set items) else .error .notName
  | .map fields => (plainFields fields).map .map
  | v => .ok v

def plainItems : List Value → Except Failure (List Value)
  | [] => .ok []
  | v :: rest => do return (← plain v) :: (← plainItems rest)

def plainFields : List (String × Value) → Except Failure (List (String × Value))
  | [] => .ok []
  | (name, v) :: rest => do return (name, ← plain v) :: (← plainFields rest)

end

def elements (v : Value) : Except Failure (List Value) :=
  match v.elements? with
  | some items => .ok items
  | none => .error .notCollection

def fields (v : Value) : Except Failure (Fields Value) :=
  match v.fields? with
  | some fields => .ok fields
  | none => .error .notMap

/-- The member of a named set that the text of a value stands for. -/
def memberOf {α : Type} (set : String) (find : String → Option α) (v : Value) : Except Failure α :=
  match v.text?.bind find with
  | some member => .ok member
  | none => .error (.unknownMember v set)

/-- The operator with the word that the value is. -/
def asOperator (v : Value) : Except Failure Operator :=
  memberOf "PostgrestOperator" Operator.ofWord? v

def asKind (v : Value) : Except Failure Filter.Kind := memberOf "FilterValueKind" Filter.Kind.ofWord? v

/-- An item read as a name and a value: it must yield just these two. -/
def asPair (item : Value) : Except Failure (Value × Value) :=
  match item.elements? with
  | none => .error .notCollection
  | some [name, value] => if name.isName then .ok (name, value) else .error .notName
  | some _ => .error .notPairs

/-- A record: a map, or one with the entries that the items of another collection give. -/
def asRecord (v : Value) : Except Failure Value :=
  match v with
  | .map _ => .ok v
  | .entries _ => .ok v
  | .view fields => .ok (.map fields)
  | v => do
    let items ← v.elements
    return ofPairs (← items.mapM asPair)

/-- The field of a record. Other collections cannot hold fields, but looking for a text in them is
possible as long as it is not found. -/
def find? (v : Value) (name : String) : Except Failure (Option Value) :=
  match v with
  | .list items | .tuple items | .set items =>
    if items.any (·.text? == some name) then .error .notCollection else .ok none
  | .text s => if Text.holds name s then .error .notCollection else .ok none
  | .operator op => if Text.holds name op.word then .error .notCollection else .ok none
  | v =>
    match v.fields? with
    | some fields => .ok (fields.get? name)
    | none => .error .notCollection

end TableGateway.Value
