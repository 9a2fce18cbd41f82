import TableGateway.Number.Hex
import TableGateway.Text.Glyph
import TableGateway.Text.Printable

/-!
Quoted literals, the form in which a text appears inside messages and inside the text of a list. A
single quote encloses it unless it holds single quotes and no double ones. Characters that do not
print are escaped by the shortest of `\x`, `\u` and `\U` that holds their code, and so is a lone
surrogate.
-/

namespace TableGateway.Text

open TableGateway.Number

/-- The quote that encloses a text. -/
def quoteMark (cs : List Char) : Char :=
  if cs.contains '\'' && !cs.contains '"' then '"' else '\''

/-- A backslash escape by code: two, four or eight hexadecimal digits. -/
def escapeCode (code : Nat) : List Char :=
  if code < 0x100 then '\\' :: 'x' :: hexDigits 2 code
  else if code < 0x10000 then '\\' :: 'u' :: hexDigits 4 code
  else '\\' :: 'U' :: hexDigits 8 code

/-- One character inside quotes, where `keep` tells which characters stay as they are. -/
def escapeChar (keep : Char → Bool) (mark c : Char) : List Char :=
  if c = '\\' ∨ c = mark then ['\\', c]
  else if c = '\t' then ['\\', 't']
  else if c = '\n' then ['\\', 'n']
  else if c = '\r' then ['\\', 'r']
  else if keep c then [c]
  else escapeCode c.toNat

def quoted (text : String) : String :=
  let cs := text.toList
  let mark := quoteMark cs
  String.ofList (mark :: cs.flatMap (escapeChar isPrintable mark) ++ [mark])

/-- The literal of a text with lone surrogates. -/
def quotedGlyphs (glyphs : List Glyph) : String :=
  let mark := quoteMark (glyphs.filterMap Glyph.char?)
  String.ofList (mark :: glyphs.flatMap (fun
    | .char c => escapeChar isPrintable mark c
    | .surrogate unit => escapeCode unit) ++ [mark])

/-- The literal of the UTF-8 bytes of a text: bytes outside printable ASCII are escaped one by one. -/
def quotedBytes (text : String) : String :=
  let cs := text.toUTF8.toList.map fun byte => Char.ofNat byte.toNat
  let mark := quoteMark cs
  String.ofList ('b' :: mark :: cs.flatMap (escapeChar (fun c => 0x20 ≤ c.toNat && c.toNat < 0x7F) mark)
    ++ [mark])

end TableGateway.Text
