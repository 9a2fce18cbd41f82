import TableGateway.Query.Dialect
import TableGateway.Query.Encoding
import TableGateway.Text.Case

/-!
Parameters of a listing: the condition of a reference, the order, the page, the filters. They are merged
in this order, so that a filter may take the place of any of the others.
-/

namespace TableGateway.Query

open TableGateway.Number TableGateway.Text

/-- A page, counted from one, and the number of rows on a page. -/
structure Pagination where
  page : Int
  perPage : Int
  deriving DecidableEq

def Pagination.standard : Pagination := ⟨1, 25⟩

structure SortBy where
  field : String
  direction : Direction
  deriving DecidableEq

def SortBy.standard : SortBy := ⟨"id", .ascending⟩

/-- The direction that a text names as it is, or else in upper case. -/
def directionOfText? (s : String) : Option Direction :=
  (Direction.ofName? s).or (Direction.ofName? (String.ofList (upper s.toList)))

/-- The direction that a value names. -/
def directionOf (v : Value) : Except Failure Direction :=
  Value.memberOf "SortOrder" directionOfText? v

/-- The order of a listing. The generic field stands for all fields of the key. -/
def Dialect.order (d : Dialect) (sort : SortBy) (key : PrimaryKey) : String :=
  if sort.field = d.idField then
    ",".intercalate (key.map fun field => field ++ "." ++ sort.direction.word)
  else sort.field ++ "." ++ sort.direction.word

/-- The order by a field in a direction that a value names. -/
def Dialect.orderBy (d : Dialect) (field : String) (direction : Value) (key : PrimaryKey) :
    Except Failure String := do
  return d.order ⟨field, ← directionOf direction⟩ key

/-- The number of rows before the page. -/
def Pagination.offset (p : Pagination) : Int := (p.page - 1) * p.perPage

def numeral (n : Int) : Except Failure String :=
  if withinDigitLimit n then .ok (intText n) else .error .integerTooLong

/-- The parameters of a page. -/
def Pagination.fields (p : Pagination) : Except Failure (Fields String) := do
  let offset ← numeral p.offset
  let limit ← numeral p.perPage
  return [("offset", offset), ("limit", limit)]

/-- What a listing asks for, the key apart. A void filter has no entries. -/
structure Listing where
  pagination : Pagination
  sort : SortBy
  filter : Value

/-- The parameters of a listing of all rows. -/
def Dialect.listing (d : Dialect) (key : PrimaryKey) (l : Listing) : Except Failure Parameters := do
  let order : Parameters := [(glyphsOf "order", .text (d.order l.sort key))]
  let page ← l.pagination.fields
  let filters ← d.filters.parameters (← Filter.entriesOf l.filter)
  return Fields.ofPairs (order ++ page.map (fun field => (glyphsOf field.1, .text field.2)) ++ filters)

/-- The condition that a field refers to the record with the given identifier. -/
def reference (id : Value) : Except Failure Value := do
  return .ofGlyphs (glyphsOf (Operator.eq.word ++ ".") ++ (← id.asInset))

/-- The parameters of a listing of the rows whose `target` field refers to a record. No target or an
empty one limits nothing. -/
def Dialect.listingOf (d : Dialect) (key : PrimaryKey) (target : Option String) (id : Value)
    (l : Listing) : Except Failure Parameters :=
  match target.filter (!·.isEmpty) with
  | none => d.listing key l
  | some target => do
    let condition ← reference id
    return Fields.merge [(glyphsOf target, condition)] (← d.listing key l)

/-- The same for a target of any kind, which names the parameter as it is. -/
def Dialect.listingOfAny (d : Dialect) (key : PrimaryKey) (target id : Value) (l : Listing) :
    Except Failure (List (Value × Value)) :=
  if target.isVoid then asPairs <$> d.listing key l
  else do
    let condition ← reference id
    if target.isName then
      return (asPairs (← d.listing key l)).foldl (fun all pair => Value.putEntry all pair.1 pair.2)
        [(target, condition)]
    else .error .notName

end TableGateway.Query
