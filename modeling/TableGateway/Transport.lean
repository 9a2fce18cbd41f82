import TableGateway.Gateway
import TableGateway.Json.Encoding

/-!
A client over plain HTTP. Headers of the client are sent with every request, those of the request win.
The content of an answer is read as JSON, and as text when it is no JSON; JSON that is nested too deep is
a failure. So is an answer with a status outside 200 to 299, which carries the decoded content.
-/

namespace TableGateway

structure RawAnswer where
  status : Int
  headers : Fields String
  content : String

/-- The status tells success. -/
def isSuccess (status : Int) : Bool := 200 ≤ status && status < 300

/-- The value of the content of an answer. -/
def payload (content : String) : Except Failure Value :=
  if content.isEmpty then .ok .null
  else
    match Json.readBytes content with
    | .ok v => .ok v
    | .error .malformed => .ok (.text content)
    | .error .tooDeep => .error .tooDeep

def RawAnswer.decode (raw : RawAnswer) (url : String) : Except Failure Response := do
  let body ← payload raw.content
  if isSuccess raw.status then return ⟨raw.status, raw.headers, body⟩
  else .error (.http (.int raw.status) body (.text url))

/-- Where the underlying client comes from. -/
inductive Connection where
  /-- A client was passed in. -/
  | injected
  /-- One is opened for each request, with the timeout of the transport. -/
  | opened
  /-- None can be had. -/
  | unavailable
  deriving DecidableEq

/-- A transport: its own headers, and how it connects. -/
structure Transport where
  timeout : Value
  headers : Fields String
  connection : Connection

/-- The number of seconds after which a request is given up when nothing else is chosen: ten. -/
def defaultTimeout : Value := .float (Number.Binary64.ofRatio false 10 1)

/-- What goes over the wire, and the timeout of a connection that was opened for it. -/
structure Dispatch where
  request : Request
  timeout : Option Value

namespace Transport

/-- The request with the headers of the transport under its own. -/
def dress (t : Transport) (request : Request) : Request :=
  { request with headers := t.headers.merge request.headers }

/-- What is sent for a request; nothing without a connection. -/
def dispatch? (t : Transport) (request : Request) : Option Dispatch :=
  match t.connection with
  | .injected => some ⟨t.dress request, none⟩
  | .opened => some ⟨t.dress request, some t.timeout⟩
  | .unavailable => none

/-- Sends a request to a service that answers as given. -/
def send (t : Transport) (service : Request → RawAnswer) (request : Request) :
    Except Failure Response :=
  match t.dispatch? request with
  | none => .error .noClient
  | some dispatch => (service dispatch.request).decode request.url

/-- The transport with a client passed in and no headers of its own. -/
def plain : Transport := ⟨defaultTimeout, [], .injected⟩

end Transport

end TableGateway
