/-!
The separators of a JSON text.
-/

namespace TableGateway.Json

/-- What stands between two items and between a name and its value. -/
structure Layout where
  comma : List Char
  colon : List Char

def spaced : Layout := ⟨[',', ' '], [':', ' ']⟩

def compact : Layout := ⟨[','], [':']⟩

end TableGateway.Json
