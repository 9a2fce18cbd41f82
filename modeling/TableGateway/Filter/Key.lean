import TableGateway.Failure
import TableGateway.Text.Split

/-!
Filter keys: a field name alone, or a field name and an operator with a separator between them. Both
parts must be present when there is a separator, and there may be only one.
-/

namespace TableGateway.Filter

open TableGateway.Text

structure Key where
  whole : String
  field : String
  operator : Option String
  deriving DecidableEq

def defaultSeparator : String := "@"

/-- The parts of a filter key. -/
def Key.parse (separator whole : String) : Except Failure Key :=
  if separator.isEmpty then .error .emptySeparator
  else
    match cut separator.toList whole.toList with
    | none => .ok ⟨whole, whole, none⟩
    | some (field, operator) =>
      if field.isEmpty || operator.isEmpty || (cut separator.toList operator).isSome then
        .error (.filterKey (.text whole) (.text separator))
      else .ok ⟨whole, String.ofList field, some (String.ofList operator)⟩

end TableGateway.Filter
