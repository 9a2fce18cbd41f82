/-!
What can be wrong with one field of the data that a caller passes in, and where the field stands.
-/

namespace TableGateway.Check

inductive Problem where
  | missing
  | notText
  | notInteger
  | unreadableInteger
  | fraction
  | notFinite
  | integerSize
  | belowOne
  | notMap
  | notList
  | notTuple
  /-- No map where the parameters of the given name are expected. -/
  | notParameters (name : String)
  | notDirection
  | tooShort
  | tooLong
  /-- Refused by a rule of its own. -/
  | refused (reason : String)
  deriving DecidableEq

namespace Problem

def code : Problem → String
  | .missing => "missing"
  | .notText => "string_type"
  | .notInteger => "int_type"
  | .unreadableInteger => "int_parsing"
  | .fraction => "int_from_float"
  | .notFinite => "finite_number"
  | .integerSize => "int_parsing_size"
  | .belowOne => "greater_than_equal"
  | .notMap => "dict_type"
  | .notList => "list_type"
  | .notTuple => "tuple_type"
  | .notParameters _ => "model_type"
  | .notDirection => "enum"
  | .tooShort => "string_too_short"
  | .tooLong => "string_too_long"
  | .refused _ => "value_error"

def message : Problem → String
  | .missing => "Field required"
  | .notText => "Input should be a valid string"
  | .notInteger => "Input should be a valid integer"
  | .unreadableInteger => "Input should be a valid integer, unable to parse string as an integer"
  | .fraction => "Input should be a valid integer, got a number with a fractional part"
  | .notFinite => "Input should be a finite number"
  | .integerSize => "Unable to parse input string as an integer, exceeded maximum size"
  | .belowOne => "Input should be greater than or equal to 1"
  | .notMap => "Input should be a valid dictionary"
  | .notList => "Input should be a valid list"
  | .notTuple => "Input should be a valid tuple"
  | .notParameters name => "Input should be a valid dictionary or instance of " ++ name
  | .notDirection => "Input should be 'ASC' or 'DESC'"
  | .tooShort => "String should have at least 1 character"
  | .tooLong => "String should have at most 1 character"
  | .refused reason => "Value error, " ++ reason

end Problem

/-- One step on the way to a field. -/
inductive Step where
  | field (name : String)
  | index (place : Int)
  deriving DecidableEq

structure Issue where
  path : List Step
  problem : Problem
  deriving DecidableEq

def Issue.under (step : Step) (issue : Issue) : Issue := { issue with path := step :: issue.path }

end TableGateway.Check
