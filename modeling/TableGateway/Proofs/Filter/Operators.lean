import TableGateway.Proofs.Filter.Scheme

/-!
Operators given and operators implied. A key may name the operator of its filter or leave it to the value, and the two
ways agree: naming the operator that the value brings along changes nothing, and naming another one replaces this
operator and keeps all that follows it. The default operator of a service has no part in either.
-/

namespace TableGateway.Filter

open TableGateway.Json TableGateway.Number TableGateway.Text

section

variable {scheme : Scheme} {mark : Char} {field op : String} {v : Value}

theorem parameters_implied (hmark : scheme.separator = String.singleton mark) (hfield : mark ∉ field.toList)
    (hv : Plain v) (hmap : v.kind ≠ .mapping) :
    scheme.parameters [(field, v)] = .ok [(glyphsOf field, applied (writtenOperator none v) (operand v))] := by
  have hkey := Key.parse_field hfield
  rw [← hmark] at hkey
  apply parameters_of_single
  rw [entry_of_plain hkey hv, contribution_of_not_map ((pairs?_eq_none_iff hv.untagged).mpr hmap)]

/-- The key with an operator behind a field. -/
def named (field : String) (mark : Char) (op : String) : String := field ++ String.singleton mark ++ op

theorem parse_named (hfield_ne : field ≠ "") (hfield : mark ∉ field.toList) (hop_ne : op ≠ "")
    (hop : mark ∉ op.toList) :
    Key.parse (String.singleton mark) (named field mark op) = .ok ⟨named field mark op, field, some op⟩ := by
  have heq : (named field mark op).toList = field.toList ++ mark :: op.toList := by simp [named]
  rw [Key.parse_operator heq (by simpa using hfield_ne) (by simpa using hop_ne) hfield hop, String.ofList_toList,
    String.ofList_toList]

theorem parameters_given (hmark : scheme.separator = String.singleton mark) (hfield_ne : field ≠ "")
    (hfield : mark ∉ field.toList) (hop_ne : op ≠ "") (hop : mark ∉ op.toList) (hv : Plain v)
    (hmap : v.kind ≠ .mapping) :
    scheme.parameters [(named field mark op, v)] =
      .ok [(glyphsOf (named field mark op), applied (writtenOperator (some op) v) (operand v))] := by
  have hkey := parse_named hfield_ne hfield hop_ne hop
  rw [← hmark] at hkey
  apply parameters_of_single
  rw [entry_of_plain hkey hv, contribution_of_not_map ((pairs?_eq_none_iff hv.untagged).mpr hmap)]

theorem usualOperator_ne_empty (v : Value) : usualOperator v ≠ "" := by
  cases v <;> simp [usualOperator]

/-- Any value but a map is written as its operator and an operand. A key that names the operator which the value brings
along gets what the key without an operator gets, and a key that names another operator gets the same operand behind
that one, except that null always keeps its own. -/
theorem operator_tables_agree (hfield_ne : field ≠ "") (hfield : mark ∉ field.toList) (hv : Plain v)
    (hmap : v.kind ≠ .mapping) :
    ∃ rest : List Glyph, ∀ standard : Value,
      let scheme : Scheme := ⟨standard, String.singleton mark⟩
      scheme.parameters [(field, v)] = .ok [(glyphsOf field, applied (usualOperator v) rest)] ∧
        (mark ∉ (usualOperator v).toList →
          scheme.parameters [(named field mark (usualOperator v), v)] =
            .ok [(glyphsOf (named field mark (usualOperator v)), applied (usualOperator v) rest)]) ∧
        ∀ op : String, op ≠ "" → mark ∉ op.toList →
          (v = .null → scheme.parameters [(named field mark op, v)] =
            .ok [(glyphsOf (named field mark op), applied (usualOperator v) rest)]) ∧
          (v ≠ .null → scheme.parameters [(named field mark op, v)] =
            .ok [(glyphsOf (named field mark op), applied op rest)]) := by
  refine ⟨operand v, fun standard => ?_⟩
  intro scheme
  have hmark : scheme.separator = String.singleton mark := rfl
  have hgiven : ∀ op : String, op ≠ "" → mark ∉ op.toList → scheme.parameters [(named field mark op, v)] =
      .ok [(glyphsOf (named field mark op), applied (writtenOperator (some op) v) (operand v))] :=
    fun op hop_ne hop => parameters_given hmark hfield_ne hfield hop_ne hop hv hmap
  refine ⟨?_, fun husual => ?_, fun op hop_ne hop => ⟨?_, fun hnull => ?_⟩⟩
  · have himplied := parameters_implied hmark hfield hv hmap
    rwa [writtenOperator_none] at himplied
  · rw [hgiven _ (usualOperator_ne_empty v) husual, writtenOperator_usual]
  · rintro rfl
    exact hgiven op hop_ne hop
  · rw [hgiven op hop_ne hop, writtenOperator_some op hnull]

/-- A list with a colon in one of its items, and with a map whose name is no text. -/
def taggedItems : Value := .list [.text "a:b", .null, .entries [(.int 1, .bool true)]]

theorem operator_tables_agree_taggedItems :
    "tags" ≠ "" ∧ '@' ∉ "tags".toList ∧ Plain taggedItems ∧ taggedItems.kind ≠ .mapping ∧
      ∃ rest : List Glyph, ∀ standard : Value,
        Scheme.parameters ⟨standard, "@"⟩ [("tags", taggedItems)] = .ok [(glyphsOf "tags", applied "cs" rest)] ∧
          Scheme.parameters ⟨standard, "@"⟩ [("tags@cs", taggedItems)] =
            .ok [(glyphsOf "tags@cs", applied "cs" rest)] ∧
          Scheme.parameters ⟨standard, "@"⟩ [("tags@ov", taggedItems)] =
            .ok [(glyphsOf "tags@ov", applied "ov" rest)] := by
  have hfield : '@' ∉ "tags".toList := by decide
  have hone : withinDigitLimit 1 := withinDigitLimit_of_lt_ten (by decide)
  have hfits : taggedItems.fits := by simpa [taggedItems, Value.fits, Value.allFit, Value.allEntriesFit] using hone
  have hv : Plain taggedItems := ⟨rfl, hfits, by decide⟩
  have hmap : taggedItems.kind ≠ .mapping := by simp [taggedItems, Value.kind]
  obtain ⟨rest, htables⟩ := operator_tables_agree (by decide) hfield hv hmap
  have hnull : taggedItems ≠ .null := by simp [taggedItems]
  refine ⟨by decide, hfield, hv, hmap, rest, fun standard => ?_⟩
  obtain ⟨himplied, husual, hother⟩ := htables standard
  exact ⟨himplied, husual (by decide), (hother "ov" (by decide) (by decide)).2 hnull⟩

/-- Not every value is written at all, be its operator given or implied: here lists lie 1200 deep in an item. -/
theorem deep_items_not_written :
    Data false (Value.nestedLists 1200) ∧ (Value.nestedLists 1200).kind ≠ .mapping ∧
      ∀ standard : Value,
        Scheme.parameters ⟨standard, "@"⟩ [("tags", Value.nestedLists 1200)] = .error .tooDeep ∧
          Scheme.parameters ⟨standard, "@"⟩ [("tags@cs", Value.nestedLists 1200)] = .error .tooDeep := by
  have hkind : (Value.nestedLists 1200).kind = .list := rfl
  have himplied : Key.parse "@" "tags" = .ok ⟨"tags", "tags", none⟩ := rfl
  have hgiven : Key.parse "@" "tags@cs" = .ok ⟨"tags@cs", "tags", some "cs"⟩ := rfl
  refine ⟨data_nestedLists 1200, ?_, fun standard => ⟨?_, ?_⟩⟩
  · simp [hkind]
  · exact parameters_of_entry_error (entry_nestedLists himplied (by decide))
  · exact parameters_of_entry_error (entry_nestedLists hgiven (by decide))

end

end TableGateway.Filter
