import TableGateway.Proofs.Filter.Entry
import TableGateway.Proofs.Filter.Key
import TableGateway.Proofs.Text.Stripped

/-!
Colons in filters. What is written of a text, of a list and of a value that is none of the other kinds has lost its
colons and nothing else. The items of a list are stripped together, as one text with commas between them, which comes
to the same as stripping each item by itself, whatever is nested in it. An operator that is given keeps its colons.
-/

namespace TableGateway.Filter

open TableGateway.Json TableGateway.Text

/-- The text is what is left of a value, as a scalar, without its colons. -/
def Colonless (v : Value) (t : List Glyph) : Prop :=
  ∃ s, v.asScalar = .ok s ∧ Stripped (.char ':') s t

section

variable {v : Value}

theorem colonless_iff {s t : List Glyph} (hs : v.asScalar = .ok s) : Colonless v t ↔ without ':' s = t := by
  rw [without_eq_iff]
  constructor
  · rintro ⟨s', hs', hstripped⟩
    rw [hs] at hs'
    cases hs'
    exact hstripped
  · exact fun hstripped => ⟨s, hs, hstripped⟩

section

variable {scheme : Scheme} {name : String} {key : Key}

/-- A value that is no list is stripped before the stars are put around it. -/
theorem entry_substring (hkey : Key.parse scheme.separator name = .ok key) (hv : Plain v)
    (hkind : v.kind = .text ∨ v.kind = .other) :
    ∃ t, Colonless v t ∧ scheme.entry name v =
      .ok [(glyphsOf name, applied (key.operator.getD (usualOperator v)) (glyphsOf "*" ++ t ++ glyphsOf "*"))] := by
  have hmap : v.kind ≠ .mapping := by
    rcases hkind with hkind | hkind <;> simp [hkind]
  have hlist : v.kind ≠ .list := by
    rcases hkind with hkind | hkind <;> simp [hkind]
  have hformat : v.kind.explicit = .substring := by
    rcases hkind with hkind | hkind <;> rw [hkind] <;> rfl
  have hscalar := (hv.hasText hlist hmap).asScalar
  refine ⟨without ':' v.scalar, (colonless_iff hscalar).mpr rfl, ?_⟩
  rw [entry_of_kind hkey hv.untagged hmap, hformat, write_substring _ _ hscalar, Key.whole_of_parse hkey]

/-- A list is stripped as a whole, which strips each of its items. -/
theorem entry_array (hkey : Key.parse scheme.separator name = .ok key) (hv : Plain v) (hkind : v.kind = .list) :
    ∃ items parts, v.elements? = some items ∧ List.Forall₂ Colonless items parts ∧
      .char ':' ∉ (glyphsOf ",").intercalate parts ∧ scheme.entry name v =
        .ok [(glyphsOf name, applied (key.operator.getD (usualOperator v))
          (glyphsOf "\x7b" ++ (glyphsOf ",").intercalate parts ++ glyphsOf "\x7d"))] := by
  obtain ⟨items, helements, hitems⟩ := hv.exists_items hkind
  have htexts := Value.scalars_of_hasText hitems
  have hparts : List.Forall₂ Colonless items ((items.map Value.scalar).map (without ':')) := by
    rw [List.forall₂_map_right_iff]
    exact (Sequence.mapM_eq_ok_iff.mp htexts).imp fun item s hs => (colonless_iff hs).mpr rfl
  have hjoined := without_intercalate (by decide : ',' ≠ ':') (items.map Value.scalar)
  have hmap : v.kind ≠ .mapping := by simp [hkind]
  have hformat : v.kind.explicit = .array := by
    rw [hkind]
    rfl
  refine ⟨items, _, helements, hparts, (without_eq_iff.mp hjoined).not_mem, ?_⟩
  rw [entry_of_kind hkey hv.untagged hmap, hformat, write_array _ _ helements htexts, hjoined, Key.whole_of_parse hkey]

/-- A text, a list or a value that is none of the other kinds becomes a single parameter under its key: an operator, a
dot, and a text without colons. This text is the value between stars, or the items of a list in braces with commas
between them, where the value, and each item by itself, has lost its colons and nothing else. -/
theorem colons_taken_out (hkey : Key.parse scheme.separator name = .ok key) (hv : Plain v)
    (hkind : v.kind = .text ∨ v.kind = .list ∨ v.kind = .other) :
    ∃ written : List Glyph,
      scheme.entry name v = .ok [(glyphsOf name, applied (key.operator.getD (usualOperator v)) written)] ∧
        .char ':' ∉ written ∧
        (v.kind ≠ .list → ∃ t, Colonless v t ∧ written = glyphsOf "*" ++ t ++ glyphsOf "*") ∧
        (v.kind = .list → ∃ items parts, v.elements? = some items ∧ List.Forall₂ Colonless items parts ∧
          written = glyphsOf "\x7b" ++ (glyphsOf ",").intercalate parts ++ glyphsOf "\x7d") := by
  by_cases hlist : v.kind = .list
  · obtain ⟨items, parts, helements, hparts, hcolon, hentry⟩ := entry_array hkey hv hlist
    refine ⟨_, hentry, ?_, fun hother => absurd hlist hother, fun _ => ⟨items, parts, helements, hparts, rfl⟩⟩
    simpa [glyphsOf] using hcolon
  · obtain ⟨t, ht, hentry⟩ := entry_substring hkey hv (by simpa [hlist] using hkind)
    refine ⟨_, hentry, ?_, fun _ => ⟨t, ht, rfl⟩, fun hother => absurd hother hlist⟩
    obtain ⟨s, -, hstripped⟩ := ht
    simpa [glyphsOf] using hstripped.not_mem

/-- A list with colons of its own and with a map, whose text has a colon behind each name. -/
def labelledItems : Value := .list [.text "a:b", .map [("k", .text "x:y")], .null]

theorem colons_taken_out_labelledItems :
    Key.parse "@" "tags@not:cs" = .ok ⟨"tags@not:cs", "tags", some "not:cs"⟩ ∧ Plain labelledItems ∧
      labelledItems.kind = .list ∧
      Scheme.entry ⟨.null, "@"⟩ "tags@not:cs" labelledItems =
        .ok [(glyphsOf "tags@not:cs", .text "not:cs.\x7bab,\x7b'k' 'xy'\x7d,null\x7d")] := by
  have hkey : Key.parse (Scheme.mk .null "@").separator "tags@not:cs" =
      .ok ⟨"tags@not:cs", "tags", some "not:cs"⟩ := rfl
  have hv : Plain labelledItems := ⟨rfl, rfl, by decide⟩
  refine ⟨hkey, hv, rfl, ?_⟩
  obtain ⟨written, hentry, -, -, harray⟩ := colons_taken_out hkey hv (.inr (.inl rfl))
  obtain ⟨items, parts, helements, hparts, rfl⟩ := harray rfl
  cases helements
  rcases hparts with _ | ⟨hfirst, _ | ⟨hsecond, _ | ⟨hthird, _ | _⟩⟩⟩
  obtain rfl := (colonless_iff rfl).mp hfirst
  obtain rfl := (colonless_iff rfl).mp hsecond
  obtain rfl := (colonless_iff rfl).mp hthird
  exact hentry

/-- Not every list has something written: here lists lie 1200 deep in an item. -/
theorem deep_list_not_stripped :
    Key.parse "@" "tags" = .ok ⟨"tags", "tags", none⟩ ∧ Data false (Value.nestedLists 1200) ∧
      (Value.nestedLists 1200).kind = .list ∧
      Scheme.entry ⟨.null, "@"⟩ "tags" (Value.nestedLists 1200) = .error .tooDeep := by
  have hkey : Key.parse (Scheme.mk .null "@").separator "tags" = .ok ⟨"tags", "tags", none⟩ := rfl
  exact ⟨hkey, data_nestedLists 1200, rfl, entry_nestedLists hkey (by decide)⟩

end

end

end TableGateway.Filter
