import TableGateway.Number.Numeral
import TableGateway.Text.Blank
import TableGateway.Text.Case
import TableGateway.Text.Split
import TableGateway.Value.Access

/-!
Answers of the service: status, headers, decoded body. Headers are found whatever the case of their
name, and a header of the form `range/total` gives the number of all rows of a listing.
-/

namespace TableGateway

open TableGateway.Number TableGateway.Text

structure Response where
  status : Int
  headers : Fields String
  body : Value

/-- The first header whose name differs in case at most. -/
def headerValue? (headers : Fields String) (name : String) : Option String :=
  (headers.find? fun header => sameIgnoringCase header.1 name).map (·.2)

def Response.header? (response : Response) (name : String) : Option String :=
  headerValue? response.headers name

def contentRange : String := "Content-Range"

/-- The integer after the last slash of a header, blanks around it apart. -/
def totalOf? (header : String) : Option Int :=
  integer? (trim isBlank (afterLast '/' header.toList))

/-- The total that a header tells; `name` is the name of the header for the failures. -/
def readTotal (name : String) (header : Option String) : Except Failure Int :=
  match header with
  | none => .error (.missingHeader (.text name))
  | some header =>
    if header.isEmpty then .error (.missingHeader (.text name))
    else
      match totalOf? header with
      | some total => .ok total
      | none => .error (.malformedHeader (.text name) (.text header))

/-- The rows of an answer: what the body yields, nothing for a void one. -/
def Response.rows (response : Response) : Except Failure (List Value) :=
  if response.body.isVoid then .ok [] else response.body.elements

end TableGateway
