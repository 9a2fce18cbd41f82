/-!
Texts with unpaired surrogates. Characters above U+FFFF are spelled in some encodings by two surrogates,
a high and a low one. Either can be written alone, and no text can hold it. What was written is then kept
as a list of glyphs, each of them a character or a lone surrogate.
-/

namespace TableGateway.Text

/-- The first part of a surrogate pair. -/
def isHighSurrogate (unit : Nat) : Bool := 0xD800 ≤ unit && unit < 0xDC00

/-- The second part of a surrogate pair. -/
def isLowSurrogate (unit : Nat) : Bool := 0xDC00 ≤ unit && unit < 0xE000

/-- The character that a surrogate pair stands for. -/
def joinSurrogates (high low : Nat) : Char :=
  Char.ofNat (0x10000 + (high - 0xD800) * 0x400 + (low - 0xDC00))

/-- A character or a lone surrogate. -/
inductive Glyph where
  | char (value : Char)
  | surrogate (unit : Nat)
  deriving DecidableEq

namespace Glyph

def char? : Glyph → Option Char
  | .char c => some c
  | .surrogate _ => none

/-- A character that can be shown: the replacement character for a surrogate. -/
def shown (glyph : Glyph) : Char := glyph.char?.getD '\uFFFD'

end Glyph

def glyphsOf (s : String) : List Glyph := s.toList.map .char

theorem glyphsOf_append (s t : String) : glyphsOf (s ++ t) = glyphsOf s ++ glyphsOf t := by
  simp [glyphsOf]

/-- The glyphs as a text, when all of them are characters. -/
def textOf? (glyphs : List Glyph) : Option String := (glyphs.mapM Glyph.char?).map String.ofList

theorem textOf?_map_char (cs : List Char) : textOf? (cs.map .char) = some (String.ofList cs) := by
  have all : (cs.map Glyph.char).mapM Glyph.char? = some cs := by
    induction cs with
    | nil => rfl
    | cons c cs ih => simp [Glyph.char?, ih]
  rw [textOf?, all, Option.map_some]

/-- A text comes back from its glyphs. -/
theorem textOf?_glyphsOf (s : String) : textOf? (glyphsOf s) = some s := by
  rw [glyphsOf, textOf?_map_char, String.ofList_toList]

/-- The glyph with a code of up to 32 bits, when there is one. -/
def glyphOf? (code : Nat) : Option Glyph :=
  if isHighSurrogate code || isLowSurrogate code then some (.surrogate code)
  else if code.isValidChar then some (.char (Char.ofNat code))
  else none

end TableGateway.Text
