import TableGateway.Key.Identifier
import TableGateway.Query.Dialect

/-!
Parameters that pick out the rows with given identifiers: `field=eq.value` for one row and
`field=in.(value,value)` for several under a key of one field, `and=(field.eq.value,…)` and
`or=(and(…),and(…))` under a compound key. A procedure takes the values of one compound key as named
arguments and cannot be asked for several rows. There is never a match for no identifier at all.
-/

namespace TableGateway.Query

open TableGateway.Key TableGateway.Text

def noIdentifier : String := "no identifier to match"

def severalOnProcedure : String :=
  "procedure endpoints are not views; multiple key values cannot be matched"

/-- The identifiers that a value stands for: the items of a list, or the value alone. -/
def idsOf : Value → List Value
  | .list items => items
  | .tuple items => items
  | v => [v]

/-- Texts with commas between them. -/
def commaJoined (texts : List (List Glyph)) : List Glyph := (glyphsOf ",").intercalate texts

/-- One condition inside a clause of several. -/
def condition (field : String) (value : List Glyph) : List Glyph :=
  glyphsOf (field ++ "." ++ Operator.eq.word ++ ".") ++ value

/-- The group of conditions that one identifier stands for, one for each field of a key. -/
def group (key : PrimaryKey) (values : List (List Glyph)) : List Glyph :=
  glyphsOf "(" ++ commaJoined (List.zipWith condition key values) ++ glyphsOf ")"

/-- The value of a parameter that one value has to equal. -/
def equals (value : List Glyph) : List Glyph := glyphsOf (Operator.eq.word ++ ".") ++ value

def Dialect.matchOne (d : Dialect) (key : PrimaryKey) (id : Value) (resource : String) :
    Except Failure (Fields (List Glyph)) :=
  if isCompound key then do
    let values ← decode id key
    if d.isProcedure resource then return Fields.ofPairs (key.zip values)
    else return [(Operator.and.word, group key values)]
  else do
    let value ← id.asInset
    match key with
    | [] => .error .noKeyField
    | field :: _ => return [(field, equals value)]

def Dialect.matchMany (d : Dialect) (key : PrimaryKey) (ids : List Value) (resource : String) :
    Except Failure (Fields (List Glyph)) :=
  if d.isProcedure resource then .error (.unsupported (.text resource) (.text severalOnProcedure))
  else if isCompound key then do
    let rows ← ids.mapM fun id => decode id key
    let groups := rows.map fun values => glyphsOf Operator.and.word ++ group key values
    return [(Operator.or.word, glyphsOf "(" ++ commaJoined groups ++ glyphsOf ")")]
  else do
    let values ← ids.mapM Value.asScalar
    match key with
    | [] => .error .noKeyField
    | field :: _ =>
      return [(field, glyphsOf (Operator.in.word ++ ".(") ++ commaJoined values ++ glyphsOf ")")]

/-- The match for a list of identifiers. -/
def Dialect.matching (d : Dialect) (key : PrimaryKey) (ids : List Value) (resource : String) :
    Except Failure (Fields (List Glyph)) :=
  match ids with
  | [] => .error (.unsupported (.text resource) (.text noIdentifier))
  | [id] => d.matchOne key id resource
  | ids => d.matchMany key ids resource

/-- Parameters as `name=value` joined by `&`, without any escapes. -/
def clause (fields : Fields (List Glyph)) : List Glyph :=
  (glyphsOf "&").intercalate (fields.map fun field => glyphsOf (field.1 ++ "=") ++ field.2)

end TableGateway.Query
