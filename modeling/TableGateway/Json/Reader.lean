import TableGateway.Number.Binary64
import TableGateway.Number.Hex
import TableGateway.Value.Names
import TableGateway.Value.Nesting

/-!
Reading JSON texts, with the words NaN, Infinity and -Infinity as numbers. Blanks are space, tab and
the two line ends. A number with a point or an exponent is a double, any other an integer of at most
`digitLimit` digits. Of fields with one name the last value counts, in the first one's place. A text whose
arrays and objects are nested too deep is given up at the bracket that opens one level too many, whatever
follows it.

A text is read glyph by glyph, since a string may hold lone surrogates: those that stand in the text, and
escaped ones that belong to no escaped pair. The readers return what is left after the part they read.
Fuel bounds their recursion; `parse` supplies more than any text needs.
-/

namespace TableGateway.Json

open TableGateway.Number TableGateway.Text

inductive Fault where
  | malformed
  | tooDeep
  deriving DecidableEq

/-- A blank between the parts of a JSON text. -/
def isBlank (glyph : Glyph) : Bool :=
  glyph == .char ' ' || glyph == .char '\t' || glyph == .char '\n' || glyph == .char '\r'

def skipBlanks (glyphs : List Glyph) : List Glyph := glyphs.dropWhile isBlank

/-- The character behind a backslash, `u` apart. -/
def unescape? : Char → Option Char
  | '"' => some '"'
  | '\\' => some '\\'
  | '/' => some '/'
  | 'b' => some '\x08'
  | 'f' => some '\x0c'
  | 'n' => some '\n'
  | 'r' => some '\r'
  | 't' => some '\t'
  | _ => none

def readUnit : List Glyph → Option (Nat × List Glyph)
  | .char a :: .char b :: .char c :: .char d :: rest =>
    match hexValue? a, hexValue? b, hexValue? c, hexValue? d with
    | some a, some b, some c, some d => some (((a * 16 + b) * 16 + c) * 16 + d, rest)
    | _, _, _, _ => none
  | _ => none

/-- A low surrogate, escaped. -/
def readLow : List Glyph → Option (Nat × List Glyph)
  | .char '\\' :: .char 'u' :: rest => (readUnit rest).filter fun read => isLowSurrogate read.1
  | _ => none

/-- What is escaped behind `\u`: a character by one unit or by a surrogate pair, or a lone surrogate. -/
def readUnicode (glyphs : List Glyph) : Option (Glyph × List Glyph) :=
  match readUnit glyphs with
  | none => none
  | some (unit, rest) =>
    if isHighSurrogate unit then
      match readLow rest with
      | some (low, rest) => some (.char (joinSurrogates unit low), rest)
      | none => some (.surrogate unit, rest)
    else if isLowSurrogate unit then some (.surrogate unit, rest)
    else some (.char (Char.ofNat unit), rest)

def readEscape : List Glyph → Option (Glyph × List Glyph)
  | .char 'u' :: rest => readUnicode rest
  | .char c :: rest => (unescape? c).map (.char ·, rest)
  | _ => none

/-- One glyph inside a string, escaped or not. -/
def readGlyph : List Glyph → Option (Glyph × List Glyph)
  | [] => none
  | .surrogate unit :: rest => some (.surrogate unit, rest)
  | .char c :: rest =>
    if c = '\\' then readEscape rest
    else if c.toNat < 0x20 then none
    else some (.char c, rest)

/-- The rest of a string behind its opening quote. -/
def readText : (fuel : Nat) → List Glyph → Option (List Glyph × List Glyph)
  | _, .char '"' :: rest => some ([], rest)
  | 0, _ => none
  | fuel + 1, glyphs =>
    match readGlyph glyphs with
    | none => none
    | some (glyph, rest) => (readText fuel rest).map fun read => (glyph :: read.1, read.2)

def readString (glyphs : List Glyph) : Option (Value × List Glyph) :=
  (readText glyphs.length glyphs).map fun read => (.ofGlyphs read.1, read.2)

def isDigit (glyph : Glyph) : Bool := glyph.char?.any Char.isDigit

/-- The digits with which a text begins, none at all included. -/
def readDigits (glyphs : List Glyph) : List Char × List Glyph :=
  ((glyphs.takeWhile isDigit).filterMap Glyph.char?, glyphs.dropWhile isDigit)

/-- A whole number: a zero, or digits that do not begin with one. -/
def readWhole : List Glyph → Option (List Char × List Glyph)
  | .char '0' :: rest => some (['0'], rest)
  | glyphs =>
    match readDigits glyphs with
    | ([], _) => none
    | read => some read

/-- A point with digits behind it, when there is one. -/
def readFraction (glyphs : List Glyph) : Option (List Char) × List Glyph :=
  match glyphs with
  | .char '.' :: rest =>
    match readDigits rest with
    | ([], _) => (none, glyphs)
    | (digits, rest) => (some digits, rest)
  | _ => (none, glyphs)

/-- An optional sign; `true` stands for minus. -/
def readSign : List Glyph → Bool × List Glyph
  | .char '-' :: rest => (true, rest)
  | .char '+' :: rest => (false, rest)
  | rest => (false, rest)

/-- An exponent with its letter, when there is one. -/
def readExponent (glyphs : List Glyph) : Option Int × List Glyph :=
  match glyphs with
  | .char e :: rest =>
    let (negative, unsigned) := readSign rest
    match readDigits unsigned with
    | ([], _) => (none, glyphs)
    | (digits, rest) =>
      if e = 'e' ∨ e = 'E' then (some (signed negative (natOfDigits digits)), rest)
      else (none, glyphs)
  | _ => (none, glyphs)

/-- The number with the given parts. -/
def number? (negative : Bool) (whole : List Char) (fraction : Option (List Char))
    (exponent : Option Int) : Option Value :=
  match fraction, exponent with
  | none, none =>
    if whole.length ≤ digitLimit then some (.int (signed negative (natOfDigits whole))) else none
  | _, _ =>
    let places := fraction.getD []
    some (.float (Binary64.ofScientific
      ⟨negative, natOfDigits (whole ++ places), exponent.getD 0 - places.length⟩))

def readNumber (glyphs : List Glyph) : Option (Value × List Glyph) :=
  let (negative, unsigned) :=
    match glyphs with
    | .char '-' :: rest => (true, rest)
    | _ => (false, glyphs)
  match readWhole unsigned with
  | none => none
  | some (whole, rest) =>
    let (fraction, rest) := readFraction rest
    let (exponent, rest) := readExponent rest
    (number? negative whole fraction exponent).map (·, rest)

/-- The values that are written as words. -/
def words : List (String × Value) :=
  [("null", .null), ("true", .bool true), ("false", .bool false), ("NaN", .float (.nan true)),
   ("Infinity", .float (.infinite false)), ("-Infinity", .float (.infinite true))]

def readWord (glyphs : List Glyph) : Option (Value × List Glyph) :=
  words.findSome? fun word =>
    if (glyphsOf word.1).isPrefixOf glyphs then some (word.2, glyphs.drop word.1.length) else none

/-- A value without parts: a string, a word or a number. -/
def readScalar : List Glyph → Option (Value × List Glyph)
  | .char '"' :: rest => readString rest
  | glyphs => (readWord glyphs).or (readNumber glyphs)

/-- The name of a member with the colon behind it. -/
def readName : List Glyph → Option (Value × List Glyph)
  | .char '"' :: rest =>
    match readString rest with
    | none => none
    | some (name, rest) =>
      match skipBlanks rest with
      | .char ':' :: rest => some (name, skipBlanks rest)
      | _ => none
  | _ => none

def orMalformed {α : Type} (read : Option α) : Except Fault α := read.elim (.error .malformed) .ok

mutual

/-- A value whose arrays and objects are nested at most `depth` deep. -/
def readValue : (fuel depth : Nat) → List Glyph → Except Fault (Value × List Glyph)
  | 0, _, _ => .error .malformed
  | fuel + 1, depth, glyphs =>
    match glyphs with
    | .char '[' :: rest =>
      match depth with
      | 0 => .error .tooDeep
      | depth + 1 =>
        match skipBlanks rest with
        | .char ']' :: rest => .ok (.list [], rest)
        | rest => (readItems fuel depth rest).map fun read => (.list read.1, read.2)
    | .char '\x7b' :: rest =>
      match depth with
      | 0 => .error .tooDeep
      | depth + 1 =>
        match skipBlanks rest with
        | .char '\x7d' :: rest => .ok (.map [], rest)
        | rest => (readMembers fuel depth rest).map fun read => (.ofPairs read.1, read.2)
    | glyphs => orMalformed (readScalar glyphs)

/-- The items of an array up to its closing bracket, from the first one on. -/
def readItems : (fuel depth : Nat) → List Glyph → Except Fault (List Value × List Glyph)
  | 0, _, _ => .error .malformed
  | fuel + 1, depth, glyphs =>
    match readValue fuel depth glyphs with
    | .error fault => .error fault
    | .ok (v, rest) =>
      match skipBlanks rest with
      | .char ',' :: rest =>
        (readItems fuel depth (skipBlanks rest)).map fun read => (v :: read.1, read.2)
      | .char ']' :: rest => .ok ([v], rest)
      | _ => .error .malformed

/-- The members of an object up to its closing brace, from the first one on. -/
def readMembers : (fuel depth : Nat) → List Glyph → Except Fault (List (Value × Value) × List Glyph)
  | 0, _, _ => .error .malformed
  | fuel + 1, depth, glyphs =>
    match readName glyphs with
    | none => .error .malformed
    | some (name, rest) =>
      match readValue fuel depth rest with
      | .error fault => .error fault
      | .ok (v, rest) =>
        match skipBlanks rest with
        | .char ',' :: rest =>
          (readMembers fuel depth (skipBlanks rest)).map fun read => ((name, v) :: read.1, read.2)
        | .char '\x7d' :: rest => .ok ([(name, v)], rest)
        | _ => .error .malformed

end

/-- The value of a whole JSON text, with blanks around it. -/
def parse (depth : Nat) (glyphs : List Glyph) : Except Fault Value :=
  match readValue (2 * glyphs.length + 2) depth (skipBlanks glyphs) with
  | .error fault => .error fault
  | .ok (v, rest) => if (skipBlanks rest).isEmpty then .ok v else .error .malformed

/-- The value of a text, with room for `depthLimit` levels. -/
def read (s : String) : Except Fault Value := parse depthLimit (glyphsOf s)

end TableGateway.Json
