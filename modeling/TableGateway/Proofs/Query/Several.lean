import TableGateway.Proofs.Json.Scalar
import TableGateway.Proofs.Query.Match
import TableGateway.Proofs.Text.Glyph

/-!
What the match for several identifiers under a key of one field tells about them. The values stand between
commas as they are, without quotes, so that a comma inside of a value looks like one between two values: the
match tells the pieces into which its commas cut the values, and nothing else. As long as no identifier holds a
comma the pieces are the values, and lists of different values are never matched alike, whatever other marks of
the list syntax the identifiers hold.
-/

namespace TableGateway.Query

open TableGateway.Key TableGateway.Json TableGateway.Number TableGateway.Text
open TableGateway.Operation (Identifier)

theorem comma_not_mem_intText (n : Int) : ',' ∉ (intText n).toList := by
  have hdigits (m : Nat) : ',' ∉ natDigits m := fun hmem =>
    absurd (isDigit_of_mem_natDigits hmem) (by decide)
  rw [intText, String.toList_ofList]
  cases n with
  | ofNat m => exact hdigits m
  | negSucc m => simpa [intDigits] using hdigits (m + 1)

/-- The values of identifiers, as they stand in a match. -/
def shown (ids : List Identifier) : List String := ids.map fun id => id.toValue.display

theorem shown_ne_nil {ids : List Identifier} (hseveral : 2 ≤ ids.length) : shown ids ≠ [] := by
  rw [← List.length_pos_iff, shown, List.length_map]
  omega

theorem comma_not_mem_shown {ids : List Identifier} (hids : ∀ s, Identifier.text s ∈ ids → ',' ∉ s.toList) :
    ∀ s ∈ shown ids, ',' ∉ s.toList := by
  intro s hs
  obtain ⟨id, hid, rfl⟩ := List.mem_map.mp hs
  cases id with
  | text s => exact hids s hid
  | int n => exact comma_not_mem_intText n

/-- Without commas in the identifiers, the pieces are their values. -/
theorem shown_of_pieces {ids ids' : List Identifier} (hids : ∀ s, Identifier.text s ∈ ids → ',' ∉ s.toList)
    (hids' : ∀ s, Identifier.text s ∈ ids' → ',' ∉ s.toList)
    (hpieces : (shown ids).flatMap pieces = (shown ids').flatMap pieces) : shown ids = shown ids' := by
  rw [flatMap_pieces (comma_not_mem_shown hids), flatMap_pieces (comma_not_mem_shown hids')] at hpieces
  exact List.map_injective_iff.mpr (fun _ _ => String.toList_inj.mp) hpieces

section

variable {d : Dialect} {name resource : String}

theorem matching_field {ids : List Identifier} (hprocedure : d.isProcedure resource = false)
    (hseveral : 2 ≤ ids.length) (hfits : ∀ id ∈ ids, id.toValue.fits) :
    d.matching [name] (ids.map Identifier.toValue) resource =
      .ok [(name, glyphsOf ("in.(" ++ ",".intercalate (shown ids) ++ ")"))] := by
  have hvalues : (ids.map Identifier.toValue).mapM Value.asScalar = .ok ((shown ids).map glyphsOf) := by
    rw [Sequence.mapM_eq_ok_iff, List.forall₂_map_left_iff, shown, List.map_map, List.forall₂_map_right_iff,
      List.forall₂_same]
    intro id hid
    rw [asScalar_identifier (hfits id hid), scalar_identifier, Function.comp_apply]
  rw [← List.length_map Identifier.toValue] at hseveral
  rw [matching_of_several hseveral, matchMany_field hprocedure hvalues, commaJoined, ← glyphsOf_intercalate,
    ← glyphsOf_append, ← glyphsOf_append]

/-- Lists of several identifiers are matched alike exactly when the commas cut their values into the same pieces.
So if no identifier holds a comma, a match is of one list of values only. -/
theorem same_match_iff_same_pieces {ids ids' : List Identifier} (hprocedure : d.isProcedure resource = false)
    (hseveral : 2 ≤ ids.length) (hseveral' : 2 ≤ ids'.length) (hfits : ∀ id ∈ ids ++ ids', id.toValue.fits) :
    ∃ fields fields', d.matching [name] (ids.map Identifier.toValue) resource = .ok fields ∧
      d.matching [name] (ids'.map Identifier.toValue) resource = .ok fields' ∧
      (fields = fields' ↔ (shown ids).flatMap pieces = (shown ids').flatMap pieces) ∧
      ((∀ s, Identifier.text s ∈ ids ++ ids' → ',' ∉ s.toList) → fields = fields' →
        ids.length = ids'.length ∧ shown ids = shown ids') := by
  have hall : (∀ id ∈ ids, id.toValue.fits) ∧ ∀ id ∈ ids', id.toValue.fits := List.forall_mem_append.mp hfits
  have hsame : [(name, glyphsOf ("in.(" ++ ",".intercalate (shown ids) ++ ")"))] =
        [(name, glyphsOf ("in.(" ++ ",".intercalate (shown ids') ++ ")"))] ↔
      (shown ids).flatMap pieces = (shown ids').flatMap pieces := by
    rw [← intercalate_eq_intercalate_iff (shown_ne_nil hseveral) (shown_ne_nil hseveral')]
    simp [glyphsOf_inj]
  refine ⟨_, _, matching_field hprocedure hseveral hall.1, matching_field hprocedure hseveral' hall.2, hsame, ?_⟩
  intro hcomma heq
  have hvalues : shown ids = shown ids' := by
    apply shown_of_pieces
    · exact fun s hs => hcomma s (List.mem_append_left _ hs)
    · exact fun s hs => hcomma s (List.mem_append_right _ hs)
    · exact hsame.mp heq
  have hlength := congrArg List.length hvalues
  rw [shown, shown, List.length_map, List.length_map] at hlength
  exact ⟨hlength, hvalues⟩

/-- The conventions of a service that changes none of them. -/
def usual : Dialect := ⟨.ofOperator (.operator .eq) Filter.defaultSeparator, defaultProcedureMark, "id"⟩

/-- Identifiers with all marks of the list syntax but the comma. -/
def markedIds : List Identifier := [.text "in.(\"1\")", .int (-2), .text ""]

/-- Other identifiers with the same marks. -/
def otherIds : List Identifier := [.text "in.(\"1\"", .text ")-2", .text ""]

theorem same_match_iff_same_pieces_marked :
    usual.isProcedure "posts" = false ∧ 2 ≤ markedIds.length ∧ 2 ≤ otherIds.length ∧
      (∀ id ∈ markedIds ++ otherIds, id.toValue.fits) ∧
      ∃ fields fields', usual.matching ["id"] (markedIds.map Identifier.toValue) "posts" = .ok fields ∧
        usual.matching ["id"] (otherIds.map Identifier.toValue) "posts" = .ok fields' ∧ fields ≠ fields' := by
  have hprocedure : usual.isProcedure "posts" = false := by decide
  have hseveral : 2 ≤ markedIds.length := by decide
  have hseveral' : 2 ≤ otherIds.length := by decide
  have hfits : ∀ id ∈ markedIds ++ otherIds, id.toValue.fits := by
    have hnumber : withinDigitLimit (-2) := withinDigitLimit_of_lt_ten (by decide)
    simp [markedIds, otherIds, Identifier.toValue, Value.fits, hnumber]
  obtain ⟨fields, fields', hfields, hfields', -, hvalues⟩ :=
    same_match_iff_same_pieces hprocedure hseveral hseveral' hfits
  refine ⟨hprocedure, hseveral, hseveral', hfits, fields, fields', hfields, hfields', fun heq => ?_⟩
  have hcomma : ∀ s, Identifier.text s ∈ markedIds ++ otherIds → ',' ∉ s.toList := by
    intro s hs
    simp only [markedIds, otherIds, List.mem_append, List.mem_cons, Identifier.text.injEq, reduceCtorEq,
      List.not_mem_nil, or_false, false_or] at hs
    rcases hs with (rfl | rfl) | rfl | rfl | rfl <;> decide
  exact absurd (hvalues hcomma heq).2 (by decide)

/-- A comma inside of an identifier is not told from a comma between two: the match for two identifiers is also
the match for three others. -/
theorem comma_joins_identifiers :
    usual.isProcedure "posts" = false ∧
      usual.matching ["id"] ([Identifier.text "a,b", .text "c"].map Identifier.toValue) "posts" =
        .ok [("id", glyphsOf "in.(a,b,c)")] ∧
      usual.matching ["id"] ([Identifier.text "a", .text "b", .text "c"].map Identifier.toValue) "posts" =
        .ok [("id", glyphsOf "in.(a,b,c)")] ∧
      shown [.text "a,b", .text "c"] ≠ shown [.text "a", .text "b", .text "c"] :=
  ⟨by decide, rfl, rfl, by decide⟩

end

end TableGateway.Query
