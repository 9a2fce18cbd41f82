import TableGateway.Text.Case.Lower
import TableGateway.Text.Case.Upper

/-!
Upper and lower case of whole texts, by the full case mapping: one character may become several, and
a capital sigma is lowered by its place in the word.
-/

namespace TableGateway.Text

def upperChar (c : Char) : List Char :=
  if c.toNat < 0x80 then [c.toUpper] else upperMapping.image c

def upper (cs : List Char) : List Char := cs.flatMap upperChar

/-- The lower case of one character that is not a capital sigma. -/
def lowerChar (c : Char) : List Char :=
  if c.toNat < 0x80 then [c.toLower] else lowerMapping.image c

/-- Past the case-ignorable characters stands a letter with case. -/
def startsWithCased (cs : List Char) : Bool :=
  match cs.dropWhile caseIgnorable.contains with
  | [] => false
  | c :: _ => cased.contains c

/-- The lower case of a text after the given characters, nearest first. A capital sigma is lowered to
its final form when letters come before it and none after it. -/
def lowerAfter : (before cs : List Char) → List Char
  | _, [] => []
  | before, c :: rest =>
    let image :=
      if c = 'Σ' then
        if startsWithCased before && !startsWithCased rest then ['ς'] else ['σ']
      else lowerChar c
    image ++ lowerAfter (c :: before) rest

def lower (cs : List Char) : List Char := lowerAfter [] cs

/-- Two texts that differ in case at most. -/
def sameIgnoringCase (a b : String) : Bool := lower a.toList == lower b.toList

end TableGateway.Text
