import TableGateway.Check.Checked
import TableGateway.Number.Lenient

/-!
Lenient checks of single values: what passes as a text, as an integer, as a map, as a list. Integers
may be given as whole doubles and decimals, and as numerals that are read leniently.
-/

namespace TableGateway.Check

open TableGateway.Number

/-- A text; bytes count as the text that they encode. -/
def text : Value → Checked String
  | .text s => .accepted s
  | .bytes s => .accepted s
  | .operator op => .accepted op.word
  | _ => .fail .notText

/-- A text read as an integer; one that begins with too long a numeral is refused for its size. -/
def integerOfText (cs : List Char) : Checked Int :=
  if digitLimit < plainLength cs then .fail .integerSize
  else
    match lenientInteger? cs with
    | some n => .accepted n
    | none => .fail .unreadableInteger

/-- What the size of an integer in a machine word stays below. -/
def wordLimit : Nat := Nat.pow 2 63

def integer : Value → Checked Int
  | .int n => .accepted n
  | .bool b => .accepted (if b then 1 else 0)
  | .text s => integerOfText s.toList
  | .bytes s => integerOfText s.toList
  | .operator op => integerOfText op.word.toList
  | .float x =>
    match x with
    | .finite _ _ _ =>
      match x.toInt? with
      | some n => if n.natAbs < wordLimit then .accepted n else .fail .integerSize
      | none => .fail .fraction
    | _ => .fail .notFinite
  | .decimal d =>
    match d with
    | .finite _ =>
      match d.toInt? with
      | some n => .accepted n
      | none => .fail .fraction
    | _ => .fail .notFinite
  | _ => .fail .notInteger

def positive (v : Value) : Checked Int :=
  (integer v).andThen fun n => if 1 ≤ n then .accepted n else .fail .belowOne

/-- What shows where an entry stands: its name as a field, or as a place when it is a small integer. -/
def stepTo (name : Value) : Step :=
  match name with
  | .text s => .field s
  | .operator op => .field op.word
  | .bool b => .index (if b then 1 else 0)
  | .int n => if -wordLimit ≤ n ∧ n < wordLimit then .index n else .field name.literal
  | name => .field name.literal

/-- The name of an entry, which must be a text. Lone surrogates in it are replaced. -/
def name : Value → Checked String
  | .broken glyphs => .accepted (Value.broken glyphs).display
  | v => ((text v).under (.field "[key]")).under (stepTo v)

def entry (pair : Value × Value) : Checked (String × Value) := (·, pair.2) <$> name pair.1

/-- A map, all of whose names must be texts. -/
def map : Value → Checked (Fields Value)
  | .map fields => .accepted fields
  | .view fields => .accepted fields
  | .entries pairs => Fields.ofPairs <$> Checked.each entry pairs
  | _ => .fail .notMap

def list {α : Type} (check : Value → Checked α) : Value → Checked (List α)
  | .list items => Checked.items check 0 items
  | .tuple items => Checked.items check 0 items
  | .set items => Checked.items check 0 items
  | _ => .fail .notList

/-- The items of a collection with a fixed order or of a set. -/
def tuple {α : Type} (check : Value → Checked α) : Value → Checked (List α)
  | .list items => Checked.items check 0 items
  | .tuple items => Checked.items check 0 items
  | .set items => Checked.items check 0 items
  | _ => .fail .notTuple

def any (v : Value) : Checked Value := .accepted v

def nullable {α : Type} (check : Value → Checked α) : Value → Checked (Option α)
  | .null => .accepted none
  | v => some <$> check v

/-- The data of a named set of parameters: the fields of a map. -/
def parameters {α : Type} (name : String) (check : Fields Value → Checked α) (v : Value) : Checked α :=
  match v.fields? with
  | some fields => check fields
  | none => .fail (.notParameters name)

end TableGateway.Check
