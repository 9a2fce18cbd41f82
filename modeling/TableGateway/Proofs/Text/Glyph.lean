import TableGateway.Proofs.Sequence
import TableGateway.Proofs.Text.Joined
import TableGateway.Text.Split
import TableGateway.Value.Text

/-!
Texts among lists of glyphs. A list of glyphs is a text when no lone surrogate is in it, and then it is the text of one
string only. What is put together from texts, or left of one when characters are taken out of it, is a text again.
-/

namespace TableGateway

namespace Text

theorem glyphsOf_inj {s t : String} : glyphsOf s = glyphsOf t ↔ s = t := by
  have hchar : Function.Injective Glyph.char := fun c d heq => Glyph.char.inj heq
  rw [glyphsOf, glyphsOf, (List.map_injective_iff.mpr hchar).eq_iff, String.toList_inj]

theorem glyphsOf_intercalate (mark : String) (texts : List String) :
    glyphsOf (mark.intercalate texts) = (glyphsOf mark).intercalate (texts.map glyphsOf) := by
  rw [glyphsOf, String.toList_intercalate, map_intercalate, List.map_map]
  rfl

theorem textOf?_eq_some_iff {glyphs : List Glyph} {s : String} : textOf? glyphs = some s ↔ glyphsOf s = glyphs := by
  constructor
  · intro htext
    obtain ⟨cs, hcs, rfl⟩ := Option.map_eq_some_iff.mp htext
    have hchars := Sequence.mapM_eq_some_iff.mp hcs
    rw [glyphsOf, String.toList_ofList, ← List.forall₂_eq_eq_eq, List.forall₂_map_left_iff]
    refine hchars.flip.imp fun c glyph hglyph => ?_
    cases glyph with
    | char d => exact congrArg Glyph.char (Option.some.inj hglyph).symm
    | surrogate unit => cases hglyph
  · rintro rfl
    exact textOf?_glyphsOf s

/-- A text without lone surrogates. -/
def Whole (glyphs : List Glyph) : Prop := ∀ glyph ∈ glyphs, ∃ c, glyph = .char c

theorem whole_glyphsOf (s : String) : Whole (glyphsOf s) := by
  intro glyph hglyph
  obtain ⟨c, -, rfl⟩ := List.mem_map.mp hglyph
  exact ⟨c, rfl⟩

theorem whole_iff {glyphs : List Glyph} : Whole glyphs ↔ ∃ s, glyphsOf s = glyphs := by
  constructor
  · intro hwhole
    induction glyphs with
    | nil => exact ⟨"", rfl⟩
    | cons glyph rest ih =>
      obtain ⟨⟨c, rfl⟩, hrest⟩ := List.forall_mem_cons.mp hwhole
      obtain ⟨s, rfl⟩ := ih hrest
      exact ⟨String.singleton c ++ s, by simp [glyphsOf]⟩
  · rintro ⟨s, rfl⟩
    exact whole_glyphsOf s

namespace Whole

variable {glyphs more : List Glyph}

theorem append (hglyphs : Whole glyphs) (hmore : Whole more) : Whole (glyphs ++ more) :=
  List.forall_mem_append.mpr ⟨hglyphs, hmore⟩

theorem without (hglyphs : Whole glyphs) (mark : Char) : Whole (without mark glyphs) :=
  fun glyph hglyph => hglyphs glyph (List.mem_of_mem_filter hglyph)

theorem commas {parts : List (List Glyph)} (hparts : ∀ part ∈ parts, Whole part) :
    Whole ((glyphsOf ",").intercalate parts) := by
  intro glyph hglyph
  rcases mem_intercalate hglyph with rfl | ⟨part, hpart, hmem⟩
  · exact ⟨_, rfl⟩
  · exact hparts part hpart glyph hmem

end Whole

end Text

namespace Value

open TableGateway.Text

theorem ofGlyphs_eq_text_iff {glyphs : List Glyph} {s : String} : ofGlyphs glyphs = .text s ↔ glyphsOf s = glyphs := by
  rw [← textOf?_eq_some_iff, ofGlyphs]
  cases textOf? glyphs <;> simp

theorem ofGlyphs_glyphsOf (s : String) : ofGlyphs (glyphsOf s) = .text s := ofGlyphs_eq_text_iff.mpr rfl

/-- Glyphs are held as a text if they are one, else as they are. -/
theorem ofGlyphs_cases (glyphs : List Glyph) :
    (∃ s, ofGlyphs glyphs = .text s ∧ glyphsOf s = glyphs) ∨ ofGlyphs glyphs = .broken glyphs ∧ ¬ Whole glyphs := by
  by_cases hwhole : Whole glyphs
  · obtain ⟨s, rfl⟩ := whole_iff.mp hwhole
    exact .inl ⟨s, ofGlyphs_glyphsOf s, rfl⟩
  · refine .inr ⟨?_, hwhole⟩
    rw [ofGlyphs]
    cases htext : textOf? glyphs with
    | none => rfl
    | some s => exact absurd (whole_iff.mpr ⟨s, textOf?_eq_some_iff.mp htext⟩) hwhole

theorem whole_scalar {v : Value} (hv : ∀ glyphs, v ≠ .broken glyphs) : Whole v.scalar := by
  cases v with
  | broken glyphs => exact absurd rfl (hv glyphs)
  | _ => exact whole_glyphsOf _

theorem whole_inset {v : Value} (hv : ∀ glyphs, v ≠ .broken glyphs) : Whole v.inset := by
  cases v with
  | operator op => exact whole_glyphsOf _
  | _ => exact whole_scalar hv

end Value

end TableGateway
