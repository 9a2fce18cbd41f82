import TableGateway.Operation.Identifier
import TableGateway.Query.Listing

/-!
The parameters of the data operations and the shapes of their results: how each is checked, and how it
is written back as data with every field filled in.
-/

namespace TableGateway.Operation

open TableGateway.Check TableGateway.Query

structure ListParameters where
  pagination : Pagination
  sort : SortBy
  filter : Fields Value

/-- The parameters of a listing that is limited to what refers to one record. -/
structure ReferenceParameters extends ListParameters where
  target : Option String
  id : Option Identifier

def pagination : Value → Checked Pagination :=
  parameters "PaginationSpec" fun data =>
    Pagination.mk
      <$> optional data "page" Pagination.standard.page positive
      <*> renamed data "perPage" "per_page" Pagination.standard.perPage positive

/-- A direction: a text, which is put in upper case before it is read, or bytes with the exact name. -/
def direction (v : Value) : Checked Direction :=
  match (match v with
    | .bytes s => Direction.ofName? s
    | v => v.text?.bind fun s => directionOfText? (String.ofList (Text.upper s.toList))) with
  | some direction => .accepted direction
  | none => .fail .notDirection

def sort : Value → Checked SortBy :=
  parameters "SortSpec" fun data =>
    SortBy.mk
      <$> optional data "field" SortBy.standard.field text
      <*> optional data "order" SortBy.standard.direction direction

/-- The fields that every listing has. -/
def listFields (data : Fields Value) : Checked ListParameters :=
  ListParameters.mk
    <$> optional data "pagination" Pagination.standard pagination
    <*> optional data "sort" SortBy.standard sort
    <*> optional data "filter" [] map

def list : Value → Checked ListParameters := parameters "GetListParams" listFields

def reference : Value → Checked ReferenceParameters :=
  parameters "GetManyReferenceParams" fun data =>
    ReferenceParameters.mk
      <$> listFields data
      <*> optional data "target" none (nullable text)
      <*> optional data "id" none (nullable identifier)

/-- Parameters that name one record. -/
def one (name : String) : Value → Checked Identifier :=
  parameters name fun data => required data "id" identifier

/-- Parameters that name several records. -/
def many (name : String) : Value → Checked (List Identifier) :=
  parameters name fun data => required data "ids" (Check.list identifier)

def record (name : String) : Value → Checked (Fields Value) :=
  parameters name fun data => required data "data" map

/-- One record and what to write to it. -/
def change : Value → Checked (Identifier × Fields Value) :=
  parameters "UpdateParams" fun data =>
    Prod.mk <$> required data "id" identifier <*> required data "data" map

/-- Several records and what to write to each of them. -/
def changes : Value → Checked (List Identifier × Fields Value) :=
  parameters "UpdateManyParams" fun data =>
    Prod.mk <$> required data "ids" (Check.list identifier) <*> required data "data" map

/-- A page of records and the total. -/
def listResult : Value → Checked (List (Fields Value) × Int) :=
  parameters "ListResult" fun data =>
    Prod.mk <$> required data "data" (Check.list map) <*> required data "total" integer

def manyResult : Value → Checked (List (Fields Value)) :=
  parameters "ManyResult" fun data => required data "data" (Check.list map)

/-- Identifiers of records, of any type. -/
def idsResult : Value → Checked (List Value) :=
  parameters "IdsResult" fun data => required data "data" (Check.list any)

def paginationData (p : Pagination) : Value :=
  .map [("page", .int p.page), ("per_page", .int p.perPage)]

def sortData (s : SortBy) : Value :=
  .map [("field", .text s.field), ("order", .text s.direction.name)]

def listData (p : ListParameters) : Fields Value :=
  [("pagination", paginationData p.pagination), ("sort", sortData p.sort), ("filter", .map p.filter)]

def referenceData (p : ReferenceParameters) : Fields Value :=
  listData p.toListParameters
    ++ [("target", p.target.elim .null .text), ("id", p.id.elim .null Identifier.toValue)]

def idsData (ids : List Identifier) : Value := .list (ids.map Identifier.toValue)

/-- The sets of parameters, and the results. -/
inductive ParameterSet where
  | pagination | sort | list | one | many | reference | create | update | updateMany
  | delete | deleteMany | listResult | recordResult | manyResult | idsResult
  deriving DecidableEq

/-- The data of a set after its check, with every field filled in. -/
def ParameterSet.fill : ParameterSet → Value → Checked Value
  | .pagination, v => paginationData <$> Operation.pagination v
  | .sort, v => sortData <$> Operation.sort v
  | .list, v => (fun p => .map (listData p)) <$> Operation.list v
  | .one, v => (fun id => .map [("id", id.toValue)]) <$> Operation.one "GetOneParams" v
  | .many, v => (fun ids => .map [("ids", idsData ids)]) <$> Operation.many "GetManyParams" v
  | .reference, v => (fun p => .map (referenceData p)) <$> Operation.reference v
  | .create, v => (fun data => .map [("data", .map data)]) <$> Operation.record "CreateParams" v
  | .update, v =>
    (fun p => .map [("id", p.1.toValue), ("data", .map p.2)]) <$> Operation.change v
  | .updateMany, v =>
    (fun p => .map [("ids", idsData p.1), ("data", .map p.2)]) <$> Operation.changes v
  | .delete, v => (fun id => .map [("id", id.toValue)]) <$> Operation.one "DeleteParams" v
  | .deleteMany, v => (fun ids => .map [("ids", idsData ids)]) <$> Operation.many "DeleteManyParams" v
  | .listResult, v =>
    (fun p => .map [("data", .list (p.1.map .map)), ("total", .int p.2)]) <$> Operation.listResult v
  | .recordResult, v =>
    (fun data => .map [("data", .map data)]) <$> Operation.record "RecordResult" v
  | .manyResult, v =>
    (fun rows => .map [("data", .list (rows.map .map))]) <$> Operation.manyResult v
  | .idsResult, v => (fun ids => .map [("data", .list ids)]) <$> Operation.idsResult v

/-- The checked data of a set as plain data. -/
def ParameterSet.write (set : ParameterSet) (v : Value) : Except Failure Value := do
  (← (← (set.fill v).toExcept).plain).fitting

end TableGateway.Operation
