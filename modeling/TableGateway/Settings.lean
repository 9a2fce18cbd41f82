import TableGateway.Check.Scalar
import TableGateway.Key.Registry
import TableGateway.Query.Dialect
import TableGateway.Record

/-!
The settings of a gateway: where the service is, the keys of its resources, and the conventions of its
queries. They are checked once; a gateway holds settings that passed.
-/

namespace TableGateway

open TableGateway.Check TableGateway.Text

/-- Settings that passed their checks. -/
structure Settings where
  /-- Where the service is, without a slash at the end. -/
  apiUrl : String
  defaultOperator : String
  primaryKeys : Fields PrimaryKey
  procedureMark : String
  /-- The character between a filter field and its operator. -/
  separator : String
  idField : String
  deriving DecidableEq

namespace Settings

/-- A base address without the slashes at its end; nothing may be left of it. -/
def address (v : Value) : Checked String :=
  (text v).andThen fun s =>
    let trimmed := trimRight '/' s.toList
    if trimmed.isEmpty then .fail (.refused "api_url must not be empty")
    else .accepted (String.ofList trimmed)

def operatorWords : List String := Operator.all.map Operator.word

/-- What is said instead of an integer that is too long to be shown. -/
def digitHint : String :=
  "Exceeds the limit (4300 digits) for integer string conversion; "
    ++ "use sys.set_int_max_str_digits() to increase the limit"

/-- The word of an operator. A refused value is shown in the issue, unless collections lie too deep in it. -/
def operatorWord (v : Value) : Except Failure (Checked String) :=
  match v with
  | .operator op => .ok (.accepted op.word)
  | .text s => if operatorWords.contains s then .ok (.accepted s) else unknown v
  | v => unknown v
where
  unknown (v : Value) : Except Failure (Checked String) :=
    match v.fitting with
    | .ok v => .ok (.fail (.refused ("Unknown operator " ++ v.literal ++ ". Valid operators: "
        ++ ", ".intercalate operatorWords)))
    | .error .integerTooLong => .ok (.fail (.refused digitHint))
    | .error failure => .error failure

/-- A text of exactly one character. -/
def character (v : Value) : Checked String :=
  (text v).andThen fun s =>
    if s.length = 0 then .fail .tooShort
    else if 1 < s.length then .fail .tooLong
    else .accepted s

/-- The key of one resource: the name of the resource and the fields, all of them texts. -/
def keyText (entry : Value × Value) : Checked (String × PrimaryKey) :=
  Prod.mk <$> name entry.1 <*> (Check.tuple text entry.2).under (stepTo entry.1)

/-- The keys of all resources. -/
def keyTexts (entries : List (Value × Value)) : Checked (Fields PrimaryKey) :=
  Fields.ofPairs <$> Checked.each keyText entries

/-- The keys by resource. In a map a text alone is a key of one field, a key without fields is refused, and one
that is no collection at all is a misuse, which is not collected with the issues. A view of a map is taken as it
is, and its keys need only be collections of texts. -/
def primaryKeysOf (v : Value) : Except Failure (Checked (Fields PrimaryKey)) :=
  match v with
  | .view fields => .ok (keyTexts (fields.map fun field => (.text field.1, field.2)))
  | v =>
    match v.pairs? with
    | none => .ok (.fail .notMap)
    | some entries =>
      match entries.mapM Key.Registry.entryOf with
      | .ok keys => .ok (keyTexts (keys.map fun entry => (entry.1, .tuple entry.2)))
      | .error (.emptyKeyOf resource) =>
        .ok (.fail (.refused ("primary key of " ++ resource.literal ++ " must not be empty")))
      | .error failure => .error failure

/-- A setting whose check can fail for a misuse; the given outcome when it is not among the data. -/
def settingIn {α : Type} (data : Fields Value) (name : String) (standard : α)
    (check : Value → Except Failure (Checked α)) : Except Failure (Checked α) :=
  match data.get? name with
  | none => .ok (.accepted standard)
  | some v => (check v).map (·.under (.field name))

/-- The settings in the given data. -/
def ofData (data : Fields Value) (operator : Checked String) (keys : Checked (Fields PrimaryKey)) :
    Checked Settings :=
  Settings.mk
    <$> required data "api_url" address
    <*> operator
    <*> keys
    <*> optional data "rpc_prefix" Query.defaultProcedureMark text
    <*> optional data "operator_separator" Filter.defaultSeparator character
    <*> optional data "id_field" Record.defaultIdField text

/-- The settings that a value describes. -/
def ofValue (v : Value) : Except Failure Settings :=
  match v.fields? with
  | some data => do
    let operator ← settingIn data "default_list_operator" Operator.eq.word operatorWord
    let keys ← settingIn data "primary_keys" [] primaryKeysOf
    (ofData data operator keys).toExcept
  | none => .error (.refused [⟨[], .notParameters "ProviderConfig"⟩])

/-- The settings as data. -/
def toValue (settings : Settings) : Value :=
  .map
    [("api_url", .text settings.apiUrl),
     ("default_list_operator", .text settings.defaultOperator),
     ("primary_keys", .map (settings.primaryKeys.mapValues fun key => .tuple (key.map .text))),
     ("rpc_prefix", .text settings.procedureMark),
     ("operator_separator", .text settings.separator),
     ("id_field", .text settings.idField)]

/-- The registry of the keys, each of which must have a field. -/
def registry (settings : Settings) : Except Failure (Key.Registry String) := do
  return ⟨← settings.primaryKeys.mapM fun entry => Key.Registry.checked (.text entry.1, entry.2)⟩

def primaryKey (settings : Settings) (resource : String) : PrimaryKey :=
  (settings.primaryKeys.get? resource).getD Key.standard

def dialect (settings : Settings) : Query.Dialect :=
  { filters := .ofOperator (.text settings.defaultOperator) settings.separator
    procedureMark := settings.procedureMark
    idField := settings.idField }

end Settings

end TableGateway
