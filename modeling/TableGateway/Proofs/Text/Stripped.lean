import Mathlib.Data.List.Basic
import Mathlib.Data.List.Forall2
import TableGateway.Text.Split

/-!
Texts less a mark. What is left of a text when every mark is taken out of it is said here glyph by glyph, apart
from the function that takes them out. A text that is put together from parts loses just the marks of its parts, and
a comma between them stays, so that it makes no difference whether parts are stripped one by one or when they are
joined.
-/

namespace TableGateway.Text

/-- What is left of a text without its marks: every mark is dropped, and every other glyph is kept in its place
among the others. -/
inductive Stripped (mark : Glyph) : List Glyph → List Glyph → Prop where
  | nil : Stripped mark [] []
  | drop {text rest : List Glyph} (hrest : Stripped mark text rest) : Stripped mark (mark :: text) rest
  | keep {glyph : Glyph} {text rest : List Glyph} (hglyph : glyph ≠ mark) (hrest : Stripped mark text rest) :
      Stripped mark (glyph :: text) (glyph :: rest)

namespace Stripped

variable {mark : Glyph} {text rest text' rest' : List Glyph}

theorem filter_eq (hrest : Stripped mark text rest) : text.filter (· != mark) = rest := by
  induction hrest with
  | nil => rfl
  | drop _ ih =>
    rw [List.filter_cons_of_neg (by simp)]
    exact ih
  | keep hglyph _ ih =>
    rw [List.filter_cons_of_pos (by simpa using hglyph), ih]

theorem not_mem (hrest : Stripped mark text rest) : mark ∉ rest := by
  induction hrest with
  | nil => exact List.not_mem_nil
  | drop _ ih => exact ih
  | keep hglyph _ ih =>
    rw [List.mem_cons, not_or]
    exact ⟨hglyph.symm, ih⟩

theorem append (hrest : Stripped mark text rest) (hrest' : Stripped mark text' rest') :
    Stripped mark (text ++ text') (rest ++ rest') := by
  induction hrest with
  | nil => exact hrest'
  | drop _ ih => exact .drop ih
  | keep hglyph _ ih => exact .keep hglyph ih

theorem intercalate {between : Glyph} (hbetween : between ≠ mark) {texts rests : List (List Glyph)}
    (hrests : List.Forall₂ (Stripped mark) texts rests) :
    Stripped mark ([between].intercalate texts) ([between].intercalate rests) := by
  induction hrests with
  | nil => exact .nil
  | cons hfirst htail ih =>
    cases htail with
    | nil => simpa using hfirst
    | cons _ _ =>
      have hmark : Stripped mark [between] [between] := .keep hbetween .nil
      rw [List.intercalate_cons_cons, List.intercalate_cons_cons]
      exact (hfirst.append hmark).append ih

end Stripped

theorem stripped_filter (mark : Glyph) (text : List Glyph) : Stripped mark text (text.filter (· != mark)) := by
  induction text with
  | nil => exact .nil
  | cons glyph text ih =>
    by_cases hglyph : glyph = mark
    · subst hglyph
      rw [List.filter_cons_of_neg (by simp)]
      exact .drop ih
    · rw [List.filter_cons_of_pos (by simpa using hglyph)]
      exact .keep hglyph ih

theorem without_eq_iff {mark : Char} {text rest : List Glyph} :
    without mark text = rest ↔ Stripped (.char mark) text rest := by
  constructor
  · rintro rfl
    exact stripped_filter (.char mark) text
  · exact Stripped.filter_eq

/-- Taking the marks out of joined texts takes them out of each of the texts. -/
theorem without_intercalate {mark : Char} (hcomma : ',' ≠ mark) (texts : List (List Glyph)) :
    without mark ((glyphsOf ",").intercalate texts) = (glyphsOf ",").intercalate (texts.map (without mark)) := by
  have hmark : glyphsOf "," = [.char ','] := rfl
  rw [without_eq_iff, hmark]
  apply Stripped.intercalate
  · exact fun heq => hcomma (Glyph.char.inj heq)
  · rw [List.forall₂_map_right_iff, List.forall₂_same]
    exact fun text _ => without_eq_iff.mp rfl

end TableGateway.Text
