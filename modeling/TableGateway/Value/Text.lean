import TableGateway.Number.Numeral
import TableGateway.Text.Quoted
import TableGateway.Value

/-!
The texts of a value. Its literal shows what it is: texts are quoted, lists bracketed. Its display is
the plain text, which differs from the literal for texts and a few others only at the top level. As a
scalar inside a query a text stands for itself, with its lone surrogates if it has some, and null, true and
false are spelled in small letters.

Integers of more than `digitLimit` digits have no text; `fits` tells whether a value is free of them.
-/

namespace TableGateway

open TableGateway.Number TableGateway.Text

namespace Value

mutual

/-- No integer inside the value has more than `digitLimit` digits. -/
def fits : Value → Bool
  | .int n => withinDigitLimit n
  | .list items => allFit items
  | .tuple items => allFit items
  | .set items => allFit items
  | .map fields => allFieldsFit fields
  | .entries pairs => allEntriesFit pairs
  | .view fields => allFieldsFit fields
  | .tagged _ raw => raw.fits
  | _ => true

def allFit : List Value → Bool
  | [] => true
  | v :: rest => v.fits && allFit rest

def allFieldsFit : List (String × Value) → Bool
  | [] => true
  | (_, v) :: rest => v.fits && allFieldsFit rest

def allEntriesFit : List (Value × Value) → Bool
  | [] => true
  | (name, v) :: rest => name.fits && v.fits && allEntriesFit rest

end

/-- Items with separators between two opening and closing texts. -/
def enclose (left right : String) (items : List String) : String :=
  left ++ ", ".intercalate items ++ right

mutual

def literal : Value → String
  | .null => "None"
  | .bool b => if b then "True" else "False"
  | .int n => intText n
  | .float x => x.text
  | .decimal d => "Decimal('" ++ d.text ++ "')"
  | .text s => quoted s
  | .broken glyphs => quotedGlyphs glyphs
  | .bytes s => quotedBytes s
  | .list items => enclose "[" "]" (literals items)
  | .tuple items =>
    match literals items with
    | [one] => "(" ++ one ++ ",)"
    | all => enclose "(" ")" all
  | .set items =>
    match literals items with
    | [] => "set()"
    | all => enclose "\x7b" "\x7d" all
  | .map fields => enclose "\x7b" "\x7d" (fieldLiterals fields)
  | .entries pairs => enclose "\x7b" "\x7d" (entryLiterals pairs)
  | .view fields => "mappingproxy(" ++ enclose "\x7b" "\x7d" (fieldLiterals fields) ++ ")"
  | .operator op => "<" ++ op.qualifiedName ++ ": " ++ quoted op.word ++ ">"
  | .tagged kind raw =>
    "FilterValue(kind=<FilterValueKind." ++ kind.name ++ ": " ++ quoted kind.word ++ ">, raw="
      ++ literal raw ++ ")"
  | .foreign name => "<" ++ name ++ ">"

def literals : List Value → List String
  | [] => []
  | v :: rest => literal v :: literals rest

def fieldLiterals : List (String × Value) → List String
  | [] => []
  | (name, v) :: rest => (quoted name ++ ": " ++ literal v) :: fieldLiterals rest

def entryLiterals : List (Value × Value) → List String
  | [] => []
  | (name, v) :: rest => (literal name ++ ": " ++ literal v) :: entryLiterals rest

end

/-- The plain text of a value as it is shown; lone surrogates are replaced. -/
def display : Value → String
  | .text s => s
  | .broken glyphs => String.ofList (glyphs.map Glyph.shown)
  | .decimal d => d.text
  | .view fields => (Value.map fields).literal
  | .operator op => op.qualifiedName
  | .foreign name => name
  | v => v.literal

/-- The plain text of a value. -/
def script : Value → List Glyph
  | .broken glyphs => glyphs
  | v => glyphsOf v.display

/-- A value as a scalar of a query. -/
def scalar : Value → List Glyph
  | .null => glyphsOf "null"
  | .bool b => glyphsOf (if b then "true" else "false")
  | .operator op => glyphsOf op.word
  | v => v.script

/-- A scalar set into a longer text: as `scalar`, except that an operator shows its full name. -/
def inset : Value → List Glyph
  | .operator op => glyphsOf op.qualifiedName
  | v => v.scalar

end Value

/-- Query parameters. Their names, and the texts among their values, may hold lone surrogates until they are
written out. -/
abbrev Parameters := Fields Value (List Glyph)

end TableGateway
