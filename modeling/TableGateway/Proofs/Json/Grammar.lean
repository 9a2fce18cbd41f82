import TableGateway.Json.Reader

/-!
The grammar of JSON texts, stated without a reader. Each relation tells what a first part of the glyphs spells and which
glyphs are left behind it. It may leave too much, as a numeral that is cut short does, but a whole text leaves nothing.

The grammar is that of the standard with the words NaN, Infinity and -Infinity, with any glyphs but control characters
in strings, and with lone surrogates as escapes. Integers have at most `digitLimit` digits.
-/

namespace TableGateway.Json

open TableGateway.Number TableGateway.Text

/-- Characters as glyphs. -/
abbrev asGlyphs (cs : List Char) : List Glyph := cs.map .char

/-- What may stand between the parts of a text. -/
def blanks : List Char := [' ', '\t', '\n', '\r']

/-- Blanks, any number of them. -/
inductive Blanks : List Glyph → List Glyph → Prop where
  | none (rest : List Glyph) : Blanks rest rest
  | more {blank : Char} {glyphs rest : List Glyph} (hblank : blank ∈ blanks)
      (hmore : Blanks glyphs rest) : Blanks (.char blank :: glyphs) rest

/-- One or more digits. -/
def Digits (cs : List Char) : Prop := cs ≠ [] ∧ ∀ c ∈ cs, c.isDigit

/-- A zero, or digits that do not begin with one. -/
def Whole (cs : List Char) : Prop := cs = ['0'] ∨ Digits cs ∧ cs.head? ≠ some '0'

/-- The digits behind the point of a numeral, which may have none. -/
inductive Fraction : List Char → Option (List Char) → Prop where
  | none : Fraction [] none
  | some {places : List Char} (hplaces : Digits places) : Fraction ('.' :: places) (some places)

inductive Sign : List Char → (negative : Bool) → Prop where
  | none : Sign [] false
  | plus : Sign ['+'] false
  | minus : Sign ['-'] true

/-- The power of ten behind the letter of a numeral, which may have none. -/
inductive Exponent : List Char → Option Int → Prop where
  | none : Exponent [] none
  | some {letter : Char} {sign digits : List Char} {negative : Bool} (hletter : letter = 'e' ∨ letter = 'E')
      (hsign : Sign sign negative) (hdigits : Digits digits) :
    Exponent (letter :: (sign ++ digits)) (some (signed negative (natOfDigits digits)))

/-- A numeral without point and exponent is an integer, any other a double. -/
inductive Numeral : List Char → Value → Prop where
  | integer (negative : Bool) {whole : List Char} (hwhole : Whole whole) (hlimit : whole.length ≤ digitLimit) :
    Numeral (signText negative ++ whole) (.int (signed negative (natOfDigits whole)))
  | double (negative : Bool) {whole fraction exponent : List Char} {places : Option (List Char)} {power : Option Int}
      (hwhole : Whole whole) (hfraction : Fraction fraction places) (hexponent : Exponent exponent power)
      (hdouble : places ≠ none ∨ power ≠ none) :
    Numeral (signText negative ++ (whole ++ (fraction ++ exponent)))
      (.float (Binary64.ofScientific
        ⟨negative, natOfDigits (whole ++ places.getD []), power.getD 0 - (places.getD []).length⟩))

/-- Four hexadecimal digits. -/
inductive CodeUnit : List Glyph → Nat → List Glyph → Prop where
  | digits {a b c d : Char} {p q r s : Nat} (ha : hexValue? a = some p) (hb : hexValue? b = some q)
      (hc : hexValue? c = some r) (hd : hexValue? d = some s) (rest : List Glyph) :
    CodeUnit (.char a :: .char b :: .char c :: .char d :: rest) (((p * 16 + q) * 16 + r) * 16 + s) rest

/-- The characters with an escape of one letter. -/
def shortEscapes : List (Char × Char) :=
  [('"', '"'), ('\\', '\\'), ('/', '/'), ('b', '\x08'), ('f', '\x0c'), ('n', '\n'), ('r', '\r'), ('t', '\t')]

/-- An escaped low surrogate, which the escape of a high one takes as its second half. -/
def LowNext (glyphs : List Glyph) (low : Nat) (rest : List Glyph) : Prop :=
  ∃ digits, glyphs = .char '\\' :: .char 'u' :: digits ∧ CodeUnit digits low rest ∧ isLowSurrogate low

/-- A glyph inside of a string. -/
inductive Inside : List Glyph → Glyph → List Glyph → Prop where
  | plain {c : Char} (hquote : c ≠ '"') (hescape : c ≠ '\\') (hcontrol : 0x20 ≤ c.toNat) (rest : List Glyph) :
    Inside (.char c :: rest) (.char c) rest
  | surrogate (unit : Nat) (rest : List Glyph) : Inside (.surrogate unit :: rest) (.surrogate unit) rest
  | short {letter c : Char} (hletter : (letter, c) ∈ shortEscapes) (rest : List Glyph) :
    Inside (.char '\\' :: .char letter :: rest) (.char c) rest
  | unit {glyphs rest : List Glyph} {unit : Nat} (hunit : CodeUnit glyphs unit rest)
      (hhigh : isHighSurrogate unit = false) (hlow : isLowSurrogate unit = false) :
    Inside (.char '\\' :: .char 'u' :: glyphs) (.char (Char.ofNat unit)) rest
  | pair {glyphs middle rest : List Glyph} {high low : Nat} (hunit : CodeUnit glyphs high middle)
      (hhigh : isHighSurrogate high) (hlow : LowNext middle low rest) :
    Inside (.char '\\' :: .char 'u' :: glyphs) (.char (joinSurrogates high low)) rest
  | high {glyphs rest : List Glyph} {unit : Nat} (hunit : CodeUnit glyphs unit rest) (hhigh : isHighSurrogate unit)
      (halone : ∀ low after, ¬ LowNext rest low after) :
    Inside (.char '\\' :: .char 'u' :: glyphs) (.surrogate unit) rest
  | low {glyphs rest : List Glyph} {unit : Nat} (hunit : CodeUnit glyphs unit rest) (hlow : isLowSurrogate unit) :
    Inside (.char '\\' :: .char 'u' :: glyphs) (.surrogate unit) rest

/-- The rest of a string behind its opening quote, with the glyphs that it holds. -/
inductive Quoted : List Glyph → List Glyph → List Glyph → Prop where
  | close (rest : List Glyph) : Quoted (.char '"' :: rest) [] rest
  | more {glyphs middle content rest : List Glyph} {glyph : Glyph} (hglyph : Inside glyphs glyph middle)
      (hmore : Quoted middle content rest) : Quoted glyphs (glyph :: content) rest

/-- What is spelt by a part of a JSON text: a value, the items of an array up to its bracket, or the members of an
object up to its brace. -/
inductive Phrase where
  | value (v : Value)
  | items (values : List Value)
  | members (pairs : List (Value × Value))

/-- The JSON grammar. -/
inductive Spells : List Glyph → Phrase → List Glyph → Prop where
  | word {word : String × Value} (hword : word ∈ words) (rest : List Glyph) :
    Spells (glyphsOf word.1 ++ rest) (.value word.2) rest
  | number {cs : List Char} {v : Value} (hnumeral : Numeral cs v) (rest : List Glyph) :
    Spells (asGlyphs cs ++ rest) (.value v) rest
  | string {glyphs content rest : List Glyph} (hcontent : Quoted glyphs content rest) :
    Spells (.char '"' :: glyphs) (.value (.ofGlyphs content)) rest
  | emptyArray {glyphs rest : List Glyph} (hclose : Blanks glyphs (.char ']' :: rest)) :
    Spells (.char '[' :: glyphs) (.value (.list [])) rest
  | array {glyphs first rest : List Glyph} {values : List Value} (hblanks : Blanks glyphs first)
      (hitems : Spells first (.items values) rest) : Spells (.char '[' :: glyphs) (.value (.list values)) rest
  | lastItem {glyphs after rest : List Glyph} {v : Value} (hv : Spells glyphs (.value v) after)
      (hclose : Blanks after (.char ']' :: rest)) : Spells glyphs (.items [v]) rest
  | item {glyphs after more next rest : List Glyph} {v : Value} {values : List Value}
      (hv : Spells glyphs (.value v) after) (hcomma : Blanks after (.char ',' :: more)) (hblanks : Blanks more next)
      (hitems : Spells next (.items values) rest) : Spells glyphs (.items (v :: values)) rest
  | emptyObject {glyphs rest : List Glyph} (hclose : Blanks glyphs (.char '\x7d' :: rest)) :
    Spells (.char '\x7b' :: glyphs) (.value (.map [])) rest
  | object {glyphs first rest : List Glyph} {pairs : List (Value × Value)} (hblanks : Blanks glyphs first)
      (hmembers : Spells first (.members pairs) rest) : Spells (.char '\x7b' :: glyphs) (.value (.ofPairs pairs)) rest
  | lastMember {glyphs name behind colon start after rest : List Glyph} {v : Value}
      (hname : Quoted glyphs name behind) (hcolon : Blanks behind (.char ':' :: colon)) (hstart : Blanks colon start)
      (hv : Spells start (.value v) after) (hclose : Blanks after (.char '\x7d' :: rest)) :
    Spells (.char '"' :: glyphs) (.members [(.ofGlyphs name, v)]) rest
  | member {glyphs name behind colon start after more next rest : List Glyph} {v : Value}
      {pairs : List (Value × Value)} (hname : Quoted glyphs name behind) (hcolon : Blanks behind (.char ':' :: colon))
      (hstart : Blanks colon start) (hv : Spells start (.value v) after) (hcomma : Blanks after (.char ',' :: more))
      (hblanks : Blanks more next) (hmembers : Spells next (.members pairs) rest) :
    Spells (.char '"' :: glyphs) (.members ((.ofGlyphs name, v) :: pairs)) rest

/-- A JSON text for a value, with blanks around it. -/
def JsonText (s : String) (v : Value) : Prop :=
  ∃ first last, Blanks (glyphsOf s) first ∧ Spells first (.value v) last ∧ Blanks last []

end TableGateway.Json
