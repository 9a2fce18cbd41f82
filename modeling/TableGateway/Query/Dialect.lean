import TableGateway.Filter.Scheme
import TableGateway.Key.Identifier

/-!
What the queries of one service have in common: how filters are written, which resources are
procedures, and which field name stands for the identifier.
-/

namespace TableGateway.Query

open TableGateway.Text

/-- The conventions of a service. -/
structure Dialect where
  filters : Filter.Scheme
  /-- How the names of procedures begin. -/
  procedureMark : String
  idField : String

def defaultProcedureMark : String := "rpc/"

/-- The resource is a procedure, which takes named arguments and no filters. -/
def Dialect.isProcedure (d : Dialect) (resource : String) : Bool :=
  startsWith d.procedureMark resource

end TableGateway.Query
