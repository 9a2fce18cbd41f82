import TableGateway.Text.Glyph

/-!
Cutting texts at separators, and texts without some character.
-/

namespace TableGateway.Text

/-- What stands before and after the first place where `separator` occurs. -/
def cut (separator : List Char) : List Char → Option (List Char × List Char)
  | [] => none
  | c :: cs =>
    if separator.isPrefixOf (c :: cs) then some ([], (c :: cs).drop separator.length)
    else (cut separator cs).map fun parts => (c :: parts.1, parts.2)

/-- What stands after the last `mark`; all of it when there is none. -/
def afterLast (mark : Char) (cs : List Char) : List Char :=
  (cs.reverse.takeWhile (· != mark)).reverse

/-- Drops one character from the right end as often as it stands there. -/
def trimRight (mark : Char) (cs : List Char) : List Char :=
  (cs.reverse.dropWhile (· == mark)).reverse

/-- The text less every `mark`. -/
def without (mark : Char) (glyphs : List Glyph) : List Glyph := glyphs.filter (· != .char mark)

def startsWith (start text : String) : Bool := start.toList.isPrefixOf text.toList

def holds (part text : String) : Bool :=
  part.isEmpty || (cut part.toList text.toList).isSome

/-- A separator of one character cuts exactly at its first occurrence. -/
theorem cut_singleton_eq_some_iff (mark : Char) (cs before after : List Char) :
    cut [mark] cs = some (before, after) ↔ mark ∉ before ∧ cs = before ++ mark :: after := by
  induction cs generalizing before with
  | nil => simp [cut]
  | cons c cs ih =>
    by_cases h : mark = c
    · subst h
      cases before with
      | nil => simp only [cut]; simp [eq_comm]
      | cons b before =>
        simp only [cut, List.isPrefixOf, beq_self_eq_true, Bool.and_self, if_true]
        simp only [Option.some.injEq, Prod.mk.injEq, List.cons_append, List.cons.injEq]
        grind
    · cases before with
      | nil => simp [cut, h, Ne.symm h]
      | cons b before =>
        simp only [cut, List.isPrefixOf, Bool.and_true, beq_iff_eq, h, if_false,
          Option.map_eq_some_iff, Prod.exists, Prod.mk.injEq, List.cons.injEq]
        constructor
        · rintro ⟨x, y, found, ⟨rfl, rfl⟩, rfl⟩
          obtain ⟨clean, rfl⟩ := (ih x).1 found
          simp [h, clean]
        · rintro ⟨clean, rfl, rfl⟩
          exact ⟨before, after, (ih before).2 ⟨by simp_all, rfl⟩, ⟨rfl, rfl⟩, rfl⟩

/-- A separator of one character cuts nowhere exactly when it does not occur. -/
theorem cut_singleton_eq_none_iff (mark : Char) (cs : List Char) :
    cut [mark] cs = none ↔ mark ∉ cs := by
  induction cs with
  | nil => simp [cut]
  | cons c cs ih => by_cases h : mark = c <;> simp [cut, h, ih]

end TableGateway.Text
