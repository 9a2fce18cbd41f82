import TableGateway.Fields
import TableGateway.Number.Hex
import TableGateway.Text.Split

/-!
Form encoding of query parameters, and its reading. Letters, digits and `_.-~` stand for themselves, a
space is a plus sign, and every other byte of the UTF-8 form is a percent sign with two upper case
hexadecimal digits, so that the marks `=` and `&` between the parts occur nowhere else.
-/

namespace TableGateway.Form

open TableGateway.Number TableGateway.Text

/-- Letters, digits and `_.-~`. -/
def isKept (c : Char) : Bool :=
  c.isAlphanum || c == '_' || c == '.' || c == '-' || c == '~'

/-- One byte of a name or value. -/
def escapeByte (byte : UInt8) : List Char :=
  let c := Char.ofNat byte.toNat
  if c = ' ' then ['+']
  else if isKept c then [c]
  else '%' :: (hexDigits 2 byte.toNat).map Char.toUpper

def bytesOf (s : String) : List UInt8 := s.toUTF8.data.toList

/-- A name or value as it stands in a query. -/
def escape (s : String) : List Char := (bytesOf s).flatMap escapeByte

def escapeField (field : String × String) : List Char :=
  escape field.1 ++ '=' :: escape field.2

/-- The query of the given parameters, in their order. -/
def encode (fields : Fields String) : String :=
  String.ofList (['&'].intercalate (fields.map escapeField))

/-- The bytes that an escaped text stands for. A percent sign without two digits stands for itself. -/
def unescapeBytes : List Char → List UInt8
  | [] => []
  | '+' :: rest => 0x20 :: unescapeBytes rest
  | '%' :: a :: b :: rest =>
    match hexValue? a, hexValue? b with
    | some high, some low => UInt8.ofNat (high * 16 + low) :: unescapeBytes rest
    | _, _ => 0x25 :: unescapeBytes (a :: b :: rest)
  | c :: rest => String.utf8EncodeChar c ++ unescapeBytes rest

/-- The text that an escaped one stands for, when its bytes are UTF-8. -/
def unescape? (cs : List Char) : Option String :=
  String.fromUTF8? ⟨(unescapeBytes cs).toArray⟩

/-- One parameter: what stands before and after the first `=`. -/
def unescapeField? (cs : List Char) : Option (String × String) :=
  match cut ['='] cs with
  | some (name, value) =>
    match unescape? name, unescape? value with
    | some name, some value => some (name, value)
    | _, _ => none
  | none => (unescape? cs).map (·, "")

/-- The parameters of a query, in their order. -/
def decode? (query : String) : Option (Fields String) :=
  if query.isEmpty then some [] else (query.toList.splitOn '&').mapM unescapeField?

end TableGateway.Form
