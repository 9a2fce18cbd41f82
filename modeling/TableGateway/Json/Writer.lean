import TableGateway.Failure
import TableGateway.Json.Layout
import TableGateway.Number.Hex
import TableGateway.Value.Nesting

/-!
JSON texts of values, in printable ASCII only: every other character of a string is escaped by its
code, one above U+FFFF by a surrogate pair. Names of members are strings, whatever they are in the map.
`render` writes a value; `write` first refuses values that have no JSON form or that lie too deep, the first
of them in the order of writing.
-/

namespace TableGateway.Json

open TableGateway.Number TableGateway.Text

def escapeUnit (unit : Nat) : List Char := '\\' :: 'u' :: hexDigits 4 unit

/-- One character of a JSON string. -/
def escapeChar (c : Char) : List Char :=
  if c = '"' then ['\\', '"']
  else if c = '\\' then ['\\', '\\']
  else if c = '\n' then ['\\', 'n']
  else if c = '\r' then ['\\', 'r']
  else if c = '\t' then ['\\', 't']
  else if c = '\x08' then ['\\', 'b']
  else if c = '\x0c' then ['\\', 'f']
  else if 0x20 ≤ c.toNat ∧ c.toNat < 0x7F then [c]
  else if c.toNat < 0x10000 then escapeUnit c.toNat
  else
    let offset := c.toNat - 0x10000
    escapeUnit (0xD800 + offset / 0x400) ++ escapeUnit (0xDC00 + offset % 0x400)

/-- One glyph of a JSON string: a lone surrogate is escaped by its code. -/
def escapeGlyph : Glyph → List Char
  | .char c => escapeChar c
  | .surrogate unit => escapeUnit unit

def quote (s : String) : List Char := '"' :: s.toList.flatMap escapeChar ++ ['"']

/-- A JSON string with lone surrogates. -/
def quoteGlyphs (glyphs : List Glyph) : List Char := '"' :: glyphs.flatMap escapeGlyph ++ ['"']

/-- The name of a member: texts are quoted as they are, numbers and words in their spelling. Nothing for a value
that cannot name a member. -/
def quoteName : Value → List Char
  | .text s => quote s
  | .broken glyphs => quoteGlyphs glyphs
  | .operator op => quote op.word
  | .null => quote "null"
  | .bool b => quote (if b then "true" else "false")
  | .int n => '"' :: intDigits n ++ ['"']
  | .float x => '"' :: x.digits Binary64.jsonLayout ++ ['"']
  | _ => []

mutual

/-- The JSON text of a value; nothing for a value that has none. -/
def render (layout : Layout) : Value → List Char
  | .null => ['n', 'u', 'l', 'l']
  | .bool true => ['t', 'r', 'u', 'e']
  | .bool false => ['f', 'a', 'l', 's', 'e']
  | .int n => intDigits n
  | .float x => x.digits Binary64.jsonLayout
  | .text s => quote s
  | .broken glyphs => quoteGlyphs glyphs
  | .operator op => quote op.word
  | .list items => '[' :: renderItems layout items ++ [']']
  | .tuple items => '[' :: renderItems layout items ++ [']']
  | .map fields => '\x7b' :: renderFields layout fields ++ ['\x7d']
  | .entries pairs => '\x7b' :: renderPairs layout pairs ++ ['\x7d']
  | .decimal _ => []
  | .bytes _ => []
  | .set _ => []
  | .tagged _ _ => []
  | .view _ => []
  | .foreign _ => []

def renderItems (layout : Layout) : List Value → List Char
  | [] => []
  | v :: rest => render layout v ++ renderMoreItems layout rest

def renderMoreItems (layout : Layout) : List Value → List Char
  | [] => []
  | v :: rest => layout.comma ++ render layout v ++ renderMoreItems layout rest

def renderFields (layout : Layout) : List (String × Value) → List Char
  | [] => []
  | (name, v) :: rest =>
    quote name ++ layout.colon ++ render layout v ++ renderMoreFields layout rest

def renderMoreFields (layout : Layout) : List (String × Value) → List Char
  | [] => []
  | (name, v) :: rest =>
    layout.comma ++ quote name ++ layout.colon ++ render layout v ++ renderMoreFields layout rest

def renderPairs (layout : Layout) : List (Value × Value) → List Char
  | [] => []
  | (name, v) :: rest =>
    quoteName name ++ layout.colon ++ render layout v ++ renderMorePairs layout rest

def renderMorePairs (layout : Layout) : List (Value × Value) → List Char
  | [] => []
  | (name, v) :: rest =>
    layout.comma ++ quoteName name ++ layout.colon ++ render layout v ++ renderMorePairs layout rest

end

/-- The value can name a member. -/
def vetName : Value → Except Failure Unit
  | .int n => if withinDigitLimit n then .ok () else .error .integerTooLong
  | .text _ | .broken _ | .operator _ | .null | .bool _ | .float _ => .ok ()
  | _ => .error .notSerialisable

mutual

/-- The value has a JSON form, and its collections lie at most `depth` levels deep. -/
def vet : Value → (depth : Nat) → Except Failure Unit
  | .int n, _ => if withinDigitLimit n then .ok () else .error .integerTooLong
  | .list items, depth => deeper depth (vetItems items)
  | .tuple items, depth => deeper depth (vetItems items)
  | .map fields, depth => deeper depth (vetFields fields)
  | .entries pairs, depth => deeper depth (vetPairs pairs)
  | .decimal _, _ => .error .notSerialisable
  | .bytes _, _ => .error .notSerialisable
  | .set _, _ => .error .notSerialisable
  | .view _, _ => .error .notSerialisable
  | .tagged _ _, _ => .error .notSerialisable
  | .foreign _, _ => .error .notSerialisable
  | _, _ => .ok ()

def vetItems : List Value → (depth : Nat) → Except Failure Unit
  | [], _ => .ok ()
  | v :: rest, depth => do
    vet v depth
    vetItems rest depth

def vetFields : List (String × Value) → (depth : Nat) → Except Failure Unit
  | [], _ => .ok ()
  | (_, v) :: rest, depth => do
    vet v depth
    vetFields rest depth

def vetPairs : List (Value × Value) → (depth : Nat) → Except Failure Unit
  | [], _ => .ok ()
  | (name, v) :: rest, depth => do
    vetName name
    vet v depth
    vetPairs rest depth

end

def write (layout : Layout) (v : Value) : Except Failure String :=
  (vet v depthLimit).map fun () => String.ofList (render layout v)

end TableGateway.Json
