import TableGateway.Proofs.Fields.Joined
import TableGateway.Proofs.Query.Listing
import TableGateway.Proofs.Query.Several

/-!
The order of a filter. Its entries are taken one by one, so that their order shows in the text of a query. It decides
neither whether the filter can be written nor, as long as no two entries contribute the same name, what any name is
bound to. A listing with the filter keeps this independence: although a filter may take the place of the other
parameters, it does so by name only.
-/

namespace TableGateway.Query

open TableGateway.Filter TableGateway.Text

/-- Outcomes with the same failure, or with the same value under every name. -/
inductive Alike : Except Failure Parameters → Except Failure Parameters → Prop where
  | failed (failure : Failure) : Alike (.error failure) (.error failure)
  | bound {fields others : Parameters} (hsame : ∀ name, fields.get? name = others.get? name) :
      Alike (.ok fields) (.ok others)

section

variable {d : Dialect} {key : PrimaryKey} {filter other : Fields Value} {fields others : Parameters}

/-- A filter in another order is written exactly when the filter itself is. -/
theorem exists_parameters_perm {scheme : Scheme} (hsame : filter.Perm other) :
    (∃ fields, scheme.parameters filter = .ok fields) ↔ ∃ fields, scheme.parameters other = .ok fields := by
  simp only [exists_parameters_iff_forall, hsame.mem_iff]

/-- Entries that contribute no name in common bind the same names to the same values in any order. -/
theorem get?_parameters_perm {scheme : Scheme} (hsame : filter.Perm other)
    (hfields : scheme.parameters filter = .ok fields) (hothers : scheme.parameters other = .ok others)
    (hshared : filter.Pairwise fun field next => (scheme.part field).names.Disjoint (scheme.part next).names)
    (name : List Glyph) : fields.get? name = others.get? name := by
  obtain ⟨-, rfl⟩ := parameters_eq_ok_iff.mp hfields
  obtain ⟨-, rfl⟩ := parameters_eq_ok_iff.mp hothers
  exact Fields.get?_ofPairs_flatMap_perm hsame hshared name

/-- Listings that differ in the order of a filter only. -/
theorem alike_listing (hfields : d.filters.parameters filter = .ok fields)
    (hothers : d.filters.parameters other = .ok others) (hget : ∀ name, fields.get? name = others.get? name)
    (p : Pagination) (sort : SortBy) :
    Alike (d.listing key ⟨p, sort, .map filter⟩) (d.listing key ⟨p, sort, .map other⟩) := by
  rw [Dialect.listing, Dialect.listing, entriesOf_map, entriesOf_map]
  cases p.fields with
  | error failure => exact .failed failure
  | ok page =>
    simp only [bind, Except.bind, hfields, hothers]
    refine .bound fun name => ?_
    -- Of the two sides only the last part differs, and only in its order.
    rw [Fields.ofPairs_append, Fields.get?_merge (nodup_names_of_parameters hfields), hget,
      ← Fields.get?_merge (nodup_names_of_parameters hothers), ← Fields.ofPairs_append]

theorem alike_listingOf {l reordered : Listing} (hlisting : Alike (d.listing key l) (d.listing key reordered))
    (target : Option String) (id : Value) :
    Alike (d.listingOf key target id l) (d.listingOf key target id reordered) := by
  rw [Dialect.listingOf, Dialect.listingOf]
  cases target.filter (!·.isEmpty) with
  | none => exact hlisting
  | some target =>
    cases reference id with
    | error failure => exact .failed failure
    | ok condition =>
      generalize hfields : d.listing key l = outcome, hothers : d.listing key reordered = reorderedOutcome at hlisting
      cases hlisting with
      | failed failure => exact .failed failure
      | bound hsame =>
        refine .bound fun name => ?_
        rw [Fields.get?_merge (nodup_names_listing hfields), Fields.get?_merge (nodup_names_listing hothers), hsame]

/-- A filter whose entries stand in another order is written exactly when the filter itself is. As long as no two
entries contribute the same name, the same names are then bound to the same values, in the parameters of the filter
and in those of every listing with it. -/
theorem filter_order_immaterial (hsame : filter.Perm other) :
    ((∃ failure, d.filters.parameters filter = .error failure) ↔
        ∃ failure, d.filters.parameters other = .error failure) ∧
      ∀ fields others, d.filters.parameters filter = .ok fields → d.filters.parameters other = .ok others →
        filter.Pairwise (fun field next => (d.filters.part field).names.Disjoint (d.filters.part next).names) →
        (∀ name, fields.get? name = others.get? name) ∧
          ∀ key pagination sort target id,
            Alike (d.listingOf key target id ⟨pagination, sort, .map filter⟩)
              (d.listingOf key target id ⟨pagination, sort, .map other⟩) := by
  constructor
  · rw [Sequence.exists_eq_error_iff, Sequence.exists_eq_error_iff, exists_parameters_perm hsame]
  · intro fields others hfields hothers hshared
    have hget : ∀ name, fields.get? name = others.get? name := get?_parameters_perm hsame hfields hothers hshared
    refine ⟨hget, fun key pagination sort target id => ?_⟩
    exact alike_listingOf (alike_listing hfields hothers hget pagination sort) target id

/-- A filter that takes the place of the order, between one with a map and one with an operator in its key. -/
def mixedFilter : Fields Value :=
  [("a", .map [("x", .text "t"), ("y", .null)]), ("order", .text "z"), ("b@neq", .text "u")]

theorem filter_order_immaterial_mixed :
    mixedFilter.Perm mixedFilter.reverse ∧
      ∃ fields others, usual.filters.parameters mixedFilter = .ok fields ∧
        usual.filters.parameters mixedFilter.reverse = .ok others ∧
        mixedFilter.Pairwise (fun field next =>
          (usual.filters.part field).names.Disjoint (usual.filters.part next).names) ∧
        fields.names ≠ others.names ∧ (∀ name, fields.get? name = others.get? name) ∧
        Alike (usual.listingOf ["id"] (some "b@neq") (.int 7) ⟨.standard, .standard, .map mixedFilter⟩)
          (usual.listingOf ["id"] (some "b@neq") (.int 7) ⟨.standard, .standard, .map mixedFilter.reverse⟩) := by
  have hsame : mixedFilter.Perm mixedFilter.reverse := (List.reverse_perm mixedFilter).symm
  have hshared : mixedFilter.Pairwise fun field next =>
      (usual.filters.part field).names.Disjoint (usual.filters.part next).names := by
    have hnames : mixedFilter.map (fun field => (usual.filters.part field).names) =
        [["a->>x", "a->>y"], ["order"], ["b@neq"]].map (List.map glyphsOf) := rfl
    rw [← List.pairwise_map, hnames]
    simp [glyphsOf_inj]
  obtain ⟨-, horder⟩ := @filter_order_immaterial usual _ _ hsame
  obtain ⟨hget, hlistings⟩ := horder _ _ rfl rfl hshared
  exact ⟨hsame, _, _, rfl, rfl, hshared, by decide, hget, hlistings ["id"] .standard .standard (some "b@neq") (.int 7)⟩

end

end TableGateway.Query
