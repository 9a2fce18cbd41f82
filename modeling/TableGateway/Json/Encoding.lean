import TableGateway.Json.Reader

/-!
JSON texts as bytes. A byte order mark of UTF-8 is skipped; without one, where zero bytes stand among
the first four tells whether the text is UTF-8, UTF-16 or UTF-32 and which byte comes first. Two halves of
a surrogate pair are joined where UTF-16 units are decoded and nowhere else.
-/

namespace TableGateway.Json

open TableGateway.Text

inductive Encoding where
  | utf8
  | utf16 (bigEndian : Bool)
  | utf32 (bigEndian : Bool)
  deriving DecidableEq

/-- The encoding of a JSON text, by its first bytes. -/
def Encoding.detect : List UInt8 → Encoding
  | a :: b :: c :: d :: _ =>
    if a = 0 then if b = 0 then .utf32 true else .utf16 true
    else if b = 0 then if c = 0 ∧ d = 0 then .utf32 false else .utf16 false
    else .utf8
  | [a, b] => if a = 0 then .utf16 true else if b = 0 then .utf16 false else .utf8
  | _ => .utf8

def unitOf (bigEndian : Bool) (bytes : List UInt8) : Nat :=
  (if bigEndian then bytes else bytes.reverse).foldl (fun n byte => n * 256 + byte.toNat) 0

/-- Pairs of bytes as units of 16 bits; a single byte at the end is refused. -/
def units16? (bigEndian : Bool) : List UInt8 → Option (List Nat)
  | [] => some []
  | a :: b :: rest => (units16? bigEndian rest).map (unitOf bigEndian [a, b] :: ·)
  | _ => none

/-- Groups of four bytes as units of 32 bits. -/
def units32? (bigEndian : Bool) : List UInt8 → Option (List Nat)
  | [] => some []
  | a :: b :: c :: d :: rest => (units32? bigEndian rest).map (unitOf bigEndian [a, b, c, d] :: ·)
  | _ => none

/-- Units of 16 bits as code points: surrogate pairs are joined, lone surrogates stay as they are. -/
def joinUnits : List Nat → List Nat
  | [] => []
  | [unit] => [unit]
  | high :: low :: rest =>
    if isHighSurrogate high && isLowSurrogate low then (joinSurrogates high low).toNat :: joinUnits rest
    else high :: joinUnits (low :: rest)

/-- The value of a text that is taken as the UTF-8 bytes of a JSON text in any encoding. -/
def readBytes (s : String) : Except Fault Value :=
  match s.toList with
  | '\uFEFF' :: rest => parse depthLimit (rest.map .char)
  | cs =>
    let bytes := s.toUTF8.data.toList
    let glyphs? : Option (List Glyph) :=
      match Encoding.detect bytes with
      | .utf8 => some (cs.map .char)
      | .utf16 bigEndian => ((units16? bigEndian bytes).map joinUnits).bind (·.mapM glyphOf?)
      | .utf32 bigEndian => (units32? bigEndian bytes).bind (·.mapM glyphOf?)
    (orMalformed glyphs?).bind (parse depthLimit)

end TableGateway.Json
