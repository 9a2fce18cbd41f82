import TableGateway.Operation.Parameters

/-!
The nine data operations, each with its parameters.
-/

namespace TableGateway

inductive Operation where
  | getList (parameters : Operation.ListParameters)
  | getManyReference (parameters : Operation.ReferenceParameters)
  | getOne (id : Operation.Identifier)
  | getMany (ids : List Operation.Identifier)
  | create (data : Fields Value)
  | update (id : Operation.Identifier) (data : Fields Value)
  | updateMany (ids : List Operation.Identifier) (data : Fields Value)
  | delete (id : Operation.Identifier)
  | deleteMany (ids : List Operation.Identifier)

namespace Operation

open TableGateway.Check

inductive Name where
  | getList | getManyReference | getOne | getMany
  | create | update | updateMany | delete | deleteMany
  deriving DecidableEq

/-- The operation of the given name with the parameters that a value describes. -/
def ofValue (name : Name) (v : Value) : Checked Operation :=
  match name with
  | .getList => .getList <$> list v
  | .getManyReference => .getManyReference <$> reference v
  | .getOne => .getOne <$> one "GetOneParams" v
  | .getMany => .getMany <$> many "GetManyParams" v
  | .create => .create <$> record "CreateParams" v
  | .update => (fun p => .update p.1 p.2) <$> change v
  | .updateMany => (fun p => .updateMany p.1 p.2) <$> changes v
  | .delete => .delete <$> one "DeleteParams" v
  | .deleteMany => .deleteMany <$> many "DeleteManyParams" v

end Operation

end TableGateway
