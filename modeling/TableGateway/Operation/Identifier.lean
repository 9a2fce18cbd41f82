import TableGateway.Check.Scalar

/-!
Identifiers as callers give them: texts and integers. What is neither is taken as a text if it can be
read as one, else as an integer.
-/

namespace TableGateway.Operation

open TableGateway.Check

inductive Identifier where
  | text (value : String)
  | int (value : Int)
  deriving DecidableEq

def Identifier.toValue : Identifier → Value
  | .text s => .text s
  | .int n => .int n

/-- An identifier; when it is refused, both readings are reported. -/
def identifier (v : Value) : Checked Identifier :=
  match v with
  | .int n => .accepted (.int n)
  | v =>
    match Check.text v, Check.integer v with
    | .accepted s, _ => .accepted (.text s)
    | _, .accepted n => .accepted (.int n)
    | .refused asText, .refused asInteger =>
      .refused (asText.map (·.under (.field "str")) ++ asInteger.map (·.under (.field "int")))

end TableGateway.Operation
