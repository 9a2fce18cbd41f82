import TableGateway.Proofs.Query.Listing
import TableGateway.Proofs.Query.Several

/-!
Which source decides a parameter of a listing. The condition of a reference, the order, the page and the filter are
set one after the other, so that a name that several of them use has the value of the last one and the place of the
first one. A filter may bind any name, and a target may have the name of any other parameter.
-/

namespace TableGateway.Query

open TableGateway.Json TableGateway.Key TableGateway.Number TableGateway.Text
open TableGateway.Operation (Identifier)

/-- What a listing binds to a name that its filter does not use. -/
def ownValue (d : Dialect) (key : PrimaryKey) (l : Listing) (target : Option String) (id : Value)
    (name : List Glyph) : Option Value :=
  if name = glyphsOf "limit" then some (.text (intText l.pagination.perPage))
  else if name = glyphsOf "offset" then some (.text (intText ((l.pagination.page - 1) * l.pagination.perPage)))
  else if name = glyphsOf "order" then some (.text (d.order l.sort key))
  else if name ≠ [] ∧ target.map glyphsOf = some name then some (.ofGlyphs (glyphsOf "eq." ++ id.scalar))
  else none

section

variable {d : Dialect} {key : PrimaryKey} {l : Listing} {filters : Parameters}

theorem nodup_names_of_translation
    (hfilters : (Filter.entriesOf l.filter >>= d.filters.parameters) = .ok filters) : filters.names.Nodup := by
  obtain ⟨filter, -, hwritten⟩ := Sequence.bind_eq_ok_iff.mp hfilters
  exact Filter.nodup_names_of_parameters hwritten

theorem get?_pageParameters (name : List Glyph) :
    (pageParameters d key l).get? name = ownValue d key l none .null name := by
  have hdistinct : glyphsOf "order" ≠ glyphsOf "offset" ∧ glyphsOf "order" ≠ glyphsOf "limit" ∧
      glyphsOf "offset" ≠ glyphsOf "limit" := by decide
  simp only [pageParameters, ownValue, Fields.get?_cons, Fields.get?_nil, Pagination.offset]
  by_cases hlimit : name = glyphsOf "limit"
  · simp [hlimit, hdistinct]
  by_cases hoffset : name = glyphsOf "offset"
  · simp [hoffset, hdistinct]
  by_cases horder : name = glyphsOf "order"
  · simp [horder, hdistinct]
  · simp [hlimit, hoffset, horder, Ne.symm hlimit, Ne.symm hoffset, Ne.symm horder]

theorem get?_listing (hfilters : filters.names.Nodup) (name : List Glyph) :
    (Fields.ofPairs (pageParameters d key l ++ filters)).get? name =
      (filters.get? name).or (ownValue d key l none .null name) := by
  have hnames : (pageParameters d key l).names.Nodup := nodup_pageNames
  rw [Fields.ofPairs_append, Fields.get?_merge hfilters, Fields.ofPairs_of_nodup hnames, get?_pageParameters]

theorem ownValue_of_target {target : String} (htarget : target ≠ "") (id : Value) (name : List Glyph) :
    ownValue d key l (some target) id name =
      (ownValue d key l none .null name).or
        (if glyphsOf target = name then some (.ofGlyphs (glyphsOf "eq." ++ id.scalar)) else none) := by
  have hnonempty : glyphsOf target ≠ [] := fun hnil => htarget (glyphsOf_inj.mp hnil)
  simp only [ownValue]
  by_cases hlimit : name = glyphsOf "limit"
  · simp only [if_pos hlimit, Option.some_or]
  by_cases hoffset : name = glyphsOf "offset"
  · simp only [if_neg hlimit, if_pos hoffset, Option.some_or]
  by_cases horder : name = glyphsOf "order"
  · simp only [if_neg hlimit, if_neg hoffset, if_pos horder, Option.some_or]
  by_cases hname : glyphsOf target = name
  · simp [hlimit, hoffset, horder, hname, hname ▸ hnonempty]
  · simp [hlimit, hoffset, horder, hname]

theorem ownValue_of_no_target {target : Option String} (htarget : target.filter (!·.isEmpty) = none) (id : Value)
    (name : List Glyph) : ownValue d key l target id name = ownValue d key l none .null name := by
  have hfree : ¬ (name ≠ [] ∧ target.map glyphsOf = some name) := by
    rintro ⟨hname, hsome⟩
    obtain ⟨field, rfl, rfl⟩ := Option.map_eq_some_iff.mp hsome
    have hempty : field = "" := by simpa using htarget
    exact hname (congrArg glyphsOf hempty)
  simp only [ownValue, if_neg hfree]
  simp

/-- A listing has parameters as soon as its filter has some and its numbers can be written. A name has the value that
the filter gives it, else the page, else the order, else the condition of the reference. The names stand in the order in
which the reference, the order, the page and the filter use them first. -/
theorem listing_precedence (hfilters : (Filter.entriesOf l.filter >>= d.filters.parameters) = .ok filters)
    (hoffset : withinDigitLimit l.pagination.offset) (hlimit : withinDigitLimit l.pagination.perPage)
    (target : Option String) {id? : Option Identifier} (hid : ∀ id ∈ id?, id.toValue.fits) :
    ∃ fields, d.listingOf key target (id?.elim .null Identifier.toValue) l = .ok fields ∧
      fields.names.Nodup ∧
      fields.names =
        (((target.filter (!·.isEmpty)).toList ++ ["order", "offset", "limit"]).map glyphsOf ++
          filters.names).eraseDups ∧
      ∀ name, fields.get? name =
        (filters.get? name).or (ownValue d key l target (id?.elim .null Identifier.toValue) name) := by
  have hlisting : d.listing key l = .ok (Fields.ofPairs (pageParameters d key l ++ filters)) :=
    listing_of_translation hoffset hlimit hfilters
  have hnodup := nodup_names_of_translation hfilters
  have hnames : (pageParameters d key l ++ filters).names =
      ["order", "offset", "limit"].map glyphsOf ++ filters.names := rfl
  cases htarget : target.filter (!·.isEmpty) with
  | none =>
    have hown (name : List Glyph) : ownValue d key l target (id?.elim .null Identifier.toValue) name =
        ownValue d key l none .null name := ownValue_of_no_target htarget _ name
    refine ⟨Fields.ofPairs (pageParameters d key l ++ filters), ?_, Fields.nodup_names_ofPairs _, ?_,
      fun name => ?_⟩
    · rw [Dialect.listingOf, htarget]
      exact hlisting
    · rw [Fields.names_ofPairs, hnames]
      rfl
    · rw [get?_listing hnodup, hown]
  | some field =>
    obtain ⟨rfl, hnonempty⟩ := Option.filter_eq_some_iff.mp htarget
    have hfield : field ≠ "" := by simpa using hnonempty
    let condition : Parameters :=
      [(glyphsOf field, .ofGlyphs (glyphsOf "eq." ++ (id?.elim .null Identifier.toValue).scalar))]
    have hcondition : condition.names.Nodup := by simp [condition, Fields.names]
    refine ⟨condition.merge (Fields.ofPairs (pageParameters d key l ++ filters)), ?_,
      Fields.nodup_names_merge hcondition _, ?_, fun name => ?_⟩
    · rw [Dialect.listingOf, htarget]
      simp only [reference_eq (asInset_reference hid), hlisting, bind, Except.bind]
      rfl
    · rw [Fields.names_merge_ofPairs hcondition, hnames]
      rfl
    · rw [Fields.get?_merge (Fields.nodup_names_ofPairs _), get?_listing hnodup, ownValue_of_target hfield,
        Option.or_assoc, Fields.get?_cons, Fields.get?_nil]

/-- The third page of what refers to a record by a field named `limit`, in a filter that names the order. -/
def crowded : Listing := ⟨⟨3, 10⟩, ⟨"id", .descending⟩, .map [("a", .bool true), ("order", .text "x")]⟩

theorem listing_precedence_crowded :
    (Filter.entriesOf crowded.filter >>= usual.filters.parameters) =
        .ok (underTexts [("a", .text "is.true"), ("order", .text "ilike.*x*")]) ∧
      withinDigitLimit crowded.pagination.offset ∧ withinDigitLimit crowded.pagination.perPage ∧
      (Identifier.int 7).toValue.fits ∧
      ∃ fields, usual.listingOf ["id"] (some "limit") (.int 7) crowded = .ok fields ∧
        fields.names = ["limit", "order", "offset", "a"].map glyphsOf ∧
        fields.get? (glyphsOf "limit") = some (.text "10") ∧
        fields.get? (glyphsOf "order") = some (.text "ilike.*x*") ∧
        fields.get? (glyphsOf "offset") = some (.text "20") ∧ fields.get? (glyphsOf "b") = none := by
  have hfilters : (Filter.entriesOf crowded.filter >>= usual.filters.parameters) =
      .ok (underTexts [("a", .text "is.true"), ("order", .text "ilike.*x*")]) := rfl
  have hoffset : withinDigitLimit crowded.pagination.offset := withinDigitLimit_of_lt 2 (by decide) (by decide)
  have hlimit : withinDigitLimit crowded.pagination.perPage := withinDigitLimit_of_lt 2 (by decide) (by decide)
  have hid : (Identifier.int 7).toValue.fits := withinDigitLimit_of_lt_ten (by decide)
  refine ⟨hfilters, hoffset, hlimit, hid, ?_⟩
  have hreference : ∀ id ∈ some (Identifier.int 7), id.toValue.fits := by simpa using hid
  obtain ⟨fields, hfields, -, hnames, hget⟩ :=
    @listing_precedence usual ["id"] crowded _ hfilters hoffset hlimit (some "limit") (some (.int 7)) hreference
  refine ⟨fields, hfields, hnames.trans (by decide), ?_, ?_, ?_, ?_⟩ <;> rw [hget] <;> rfl

end

end TableGateway.Query
