import TableGateway.Operation
import TableGateway.Query.Encoding
import TableGateway.Query.Match
import TableGateway.Response
import TableGateway.Settings

/-!
Data operations over a service that answers queries about its tables. An operation is carried out in
two pure steps: `request` plans the one request that it sends, or fails without sending any, and
`answer` reads what came back. A client stands between them; `run` puts the three together.
-/

namespace TableGateway

open TableGateway.Query

structure Request where
  method : String
  url : String
  headers : Fields String
  body : Option String
  deriving DecidableEq

/-- What sends a request and decodes the answer. It fails when the service refuses the request. -/
abbrev Client := Request → Except Failure Response

inductive Answer where
  | page (records : List (Fields Value)) (total : Int)
  | record (record : Fields Value)
  | records (records : List (Fields Value))
  /-- The identifiers of the records that were changed. -/
  | ids (ids : List Value)

/-- What was sent, and how the operation ended. -/
structure Exchange where
  sent : Option Request
  outcome : Except Failure Answer

def jsonType : String := "application/json"

def singleRowType : String := "application/vnd.pgrst.object+json"

/-- A listing asks for the number of all rows. -/
def listHeaders : Fields String := [("Accept", jsonType), ("Prefer", "count=exact")]

def oneHeaders : Fields String := [("Accept", singleRowType)]

/-- A change asks for the row that it leaves. -/
def writeOneHeaders : Fields String :=
  [("Accept", singleRowType), ("Prefer", "return=representation"), ("Content-Type", jsonType)]

def writeManyHeaders : Fields String :=
  [("Prefer", "return=representation"), ("Content-Type", jsonType)]

structure Gateway where
  settings : Settings

namespace Gateway

/-- The gateway with the settings that a value describes. Its registry of keys is set up with it, which fails
when a key has no field. -/
def ofValue (v : Value) : Except Failure Gateway := do
  let settings ← Settings.ofValue v
  let _ ← settings.registry
  return ⟨settings⟩

open Operation (Identifier ListParameters)

variable (g : Gateway)

def primaryKey (resource : String) : PrimaryKey := g.settings.primaryKey resource

def resourceUrl (resource : String) : String := g.settings.apiUrl ++ "/" ++ resource

def queryUrl (resource query : String) : String := g.resourceUrl resource ++ "?" ++ query

def rowsUrl (resource : String) (ids : List Identifier) : Except Failure String := do
  let matched ← g.settings.dialect.matching (g.primaryKey resource) (ids.map Identifier.toValue)
    resource
  return g.queryUrl resource (← encode (ofTexts matched))

/-- The body of a change to one row: key fields given by the caller are sent along. -/
def changeBody (resource : String) (data : Fields Value) : Except Failure (Fields Value) := do
  let key := g.primaryKey resource
  let keys ← Record.keyFields key (.map data)
  return (Record.withoutId data key g.settings.idField).merge keys

/-- The request of a listing, limited to what refers to a record when there is a target. -/
def listRequest (resource : String) (p : ListParameters) (target : Option String)
    (id : Option Identifier) : Except Failure Request := do
  let fields ← g.settings.dialect.listingOf (g.primaryKey resource) target
    (id.elim .null Identifier.toValue) ⟨p.pagination, p.sort, .map p.filter⟩
  return ⟨"GET", g.queryUrl resource (← encode fields), listHeaders, none⟩

/-- The one request that an operation sends. -/
def request (resource : String) : Operation → Except Failure Request
  | .getList p => g.listRequest resource p none none
  | .getManyReference p => g.listRequest resource p.toListParameters p.target p.id
  | .getOne id => do return ⟨"GET", ← g.rowsUrl resource [id], oneHeaders, none⟩
  | .getMany ids => do return ⟨"GET", ← g.rowsUrl resource ids, [], none⟩
  | .create data => do
    let body ← Json.write Json.spaced (.map data)
    return ⟨"POST", g.resourceUrl resource, writeOneHeaders, some body⟩
  | .update id data => do
    let fields ← g.changeBody resource data
    let url ← g.rowsUrl resource [id]
    let body ← Json.write Json.spaced (.map fields)
    return ⟨"PATCH", url, writeOneHeaders, some body⟩
  | .updateMany ids data => do
    let fields := Record.withoutId data (g.primaryKey resource) g.settings.idField
    let url ← g.rowsUrl resource ids
    let body ← Json.write Json.spaced (.map fields)
    return ⟨"PATCH", url, writeManyHeaders, some body⟩
  | .delete id => do return ⟨"DELETE", ← g.rowsUrl resource [id], writeOneHeaders, none⟩
  | .deleteMany ids => do return ⟨"DELETE", ← g.rowsUrl resource ids, writeManyHeaders, none⟩

/-- A row with the generic field. -/
def shape (resource : String) (row : Value) : Except Failure Value :=
  Record.withId row (g.primaryKey resource) g.settings.idField

def record (resource : String) (response : Response) : Except Failure (Fields Value) := do
  let row ← g.shape resource response.body
  ((Check.map row).under (.field "data")).toExcept

def records (resource : String) (response : Response) : Except Failure (List (Fields Value)) := do
  let rows ← (← response.rows).mapM (g.shape resource)
  ((Check.list Check.map (.list rows)).under (.field "data")).toExcept

def rowIds (resource : String) (response : Response) : Except Failure (List Value) := do
  (← response.rows).mapM fun row => Key.identifyValue row (g.primaryKey resource)

/-- A listing, whose total is read before its rows. -/
def listAnswer (resource : String) (response : Response) : Except Failure Answer := do
  let total ← readTotal contentRange (response.header? contentRange)
  return .page (← g.records resource response) total

/-- The created record: the caller's data with the identifier of the row that the service answered. -/
def createdRecord (resource : String) (data : Fields Value) (response : Response) :
    Except Failure (Fields Value) := do
  let row := if response.body.isVoid then .map [] else response.body
  return data.put g.settings.idField (← Key.identifyValue row (g.primaryKey resource))

/-- The result that an operation makes of the answer to its request. -/
def answer (resource : String) (operation : Operation) (response : Response) :
    Except Failure Answer :=
  match operation with
  | .getList _ => g.listAnswer resource response
  | .getManyReference _ => g.listAnswer resource response
  | .getOne _ => .record <$> g.record resource response
  | .getMany _ => .records <$> g.records resource response
  | .create data => .record <$> g.createdRecord resource data response
  | .update _ _ => .record <$> g.record resource response
  | .updateMany _ _ => .ids <$> g.rowIds resource response
  | .delete _ => .record <$> g.record resource response
  | .deleteMany _ => .ids <$> g.rowIds resource response

/-- Carries out an operation through a client. -/
def run (client : Client) (resource : String) (operation : Operation) : Exchange :=
  match g.request resource operation with
  | .error failure => ⟨none, .error failure⟩
  | .ok request => ⟨some request, client request >>= g.answer resource operation⟩

/-- Carries out the operation of the given name with the parameters that a value describes. -/
def perform (client : Client) (resource : String) (name : Operation.Name) (parameters : Value) :
    Exchange :=
  match (Operation.ofValue name parameters).toExcept with
  | .error failure => ⟨none, .error failure⟩
  | .ok operation => g.run client resource operation

end Gateway

end TableGateway
