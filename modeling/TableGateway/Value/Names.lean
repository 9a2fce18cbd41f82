import TableGateway.Number.Exact
import TableGateway.Value

/-!
Maps with names of any kind, as pairs of values describe them. Two names are the same when they are equal
as values: numbers by their amount whatever their kind, with true and false as one and zero, texts by
their characters, tuples item by item. What is no number equals nothing, except that the NaN of JSON texts
is one value and names one entry. Nothing equals what is only known by its text. Lists, sets and maps
cannot be names. A name that is set again keeps its first form and its place.
-/

namespace TableGateway.Value

open TableGateway.Number

/-- The amount of a number; truth values count as numbers. -/
def amount? : Value → Option Decimal
  | .bool b => Decimal.reduced? (.ofInt (if b then 1 else 0))
  | .int n => Decimal.reduced? (.ofInt n)
  | .float x => x.toDecimal.reduced?
  | .decimal d => d.reduced?
  | _ => none

mutual

/-- The value can be the name of an entry. -/
def isName : Value → Bool
  | .list _ => false
  | .set _ => false
  | .map _ => false
  | .entries _ => false
  | .view _ => false
  | .decimal (.nan _ signalling _) => !signalling
  | .tuple items => allNames items
  | .tagged _ raw => raw.isName
  | _ => true

def allNames : List Value → Bool
  | [] => true
  | v :: rest => v.isName && allNames rest

end

mutual

/-- Two values name the same entry. -/
def sameName : Value → Value → Bool
  | .null, .null => true
  | .bytes s, .bytes t => s == t
  | .broken s, .broken t => s == t
  | .float (.nan true), .float (.nan true) => true
  | .tuple items, .tuple others => sameNames items others
  | .tagged k v, .tagged l w => k == l && sameName v w
  | v, w =>
    match v.text?, w.text?, v.amount?, w.amount? with
    | some s, some t, _, _ => s == t
    | _, _, some m, some n => m == n
    | _, _, _, _ => false

def sameNames : List Value → List Value → Bool
  | [], [] => true
  | v :: rest, w :: others => sameName v w && sameNames rest others
  | _, _ => false

end

/-- Sets an entry: in its place when it is there, else at the end. -/
def putEntry : List (Value × Value) → Value → Value → List (Value × Value)
  | [], name, v => [(name, v)]
  | (n, old) :: rest, name, v =>
    if sameName n name then (n, v) :: rest else (n, old) :: putEntry rest name v

/-- A pair whose name is a text. -/
def field? : Value × Value → Option (String × Value)
  | (.text name, v) => some (name, v)
  | _ => none

/-- The map that pairs of names and values describe. -/
def ofPairs (pairs : List (Value × Value)) : Value :=
  match pairs.mapM field? with
  | some fields => .map (Fields.ofPairs fields)
  | none => .entries (pairs.foldl (fun all pair => putEntry all pair.1 pair.2) [])

/-- Sets a field of a map; other values have none. -/
def put (v : Value) (name : String) (value : Value) : Value :=
  match v with
  | .map fields => .map (Fields.put fields name value)
  | .entries pairs => .entries (putEntry pairs (.text name) value)
  | v => v

/-- The names and values of a map. -/
def pairs? : Value → Option (List (Value × Value))
  | .map fields => some (fields.map fun field => (.text field.1, field.2))
  | .entries pairs => some pairs
  | .view fields => some (fields.map fun field => (.text field.1, field.2))
  | _ => none

end TableGateway.Value
