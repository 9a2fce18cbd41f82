import TableGateway.Proofs.Filter.Scheme
import TableGateway.Proofs.Query.Encoding
import TableGateway.Query.Listing

/-!
Listings whose filter values are JSON data. Their parameters are JSON data under names that are texts, and as long as
the integers of the page can be written and there is room for the values of the filter, nothing but a filter key keeps a
listing from having parameters.
-/

namespace TableGateway.Query

open TableGateway.Filter TableGateway.Json TableGateway.Number TableGateway.Text

variable {doubles : Bool}

theorem entriesOf_map (filter : Fields Value) : entriesOf (.map filter) = .ok filter := by
  have hentries : (filter.map fun field => (Value.text field.1, field.2)).mapM entryOf = .ok filter := by
    rw [Sequence.mapM_eq_ok_iff, List.forall₂_map_left_iff, List.forall₂_same]
    exact fun field _ => rfl
  cases filter with
  | nil => rfl
  | cons field rest => exact hentries

theorem page_fields {p : Pagination} (hoffset : withinDigitLimit p.offset) (hlimit : withinDigitLimit p.perPage) :
    p.fields = .ok [("offset", intText p.offset), ("limit", intText p.perPage)] := by
  rw [Pagination.fields, numeral, if_pos hoffset, numeral, if_pos hlimit]
  rfl

theorem reference_eq {id : Value} {text : List Glyph} (hid : id.asInset = .ok text) :
    reference id = .ok (.ofGlyphs (glyphsOf "eq." ++ text)) := by
  rw [reference, hid]
  rfl

section

variable {d : Dialect} {key : PrimaryKey} {mark : Char} {p : Pagination} {sort : SortBy}

/-- The order and the page of a listing. -/
def pageParameters (d : Dialect) (key : PrimaryKey) (l : Listing) : Parameters :=
  [(glyphsOf "order", .text (d.order l.sort key)), (glyphsOf "offset", .text (intText l.pagination.offset)),
    (glyphsOf "limit", .text (intText l.pagination.perPage))]

theorem nodup_pageNames : (["order", "offset", "limit"].map glyphsOf).Nodup := by decide

/-- The parameters of a listing: its order, its page, and those of its filter. -/
theorem listing_of_translation {l : Listing} {filters : Parameters} (hoffset : withinDigitLimit l.pagination.offset)
    (hlimit : withinDigitLimit l.pagination.perPage)
    (hfilters : (entriesOf l.filter >>= d.filters.parameters) = .ok filters) :
    d.listing key l = .ok (Fields.ofPairs (pageParameters d key l ++ filters)) := by
  obtain ⟨filter, hfilter, hwritten⟩ := Sequence.bind_eq_ok_iff.mp hfilters
  rw [Dialect.listing, page_fields hoffset hlimit, hfilter]
  simp only [bind, Except.bind, hwritten]
  rfl

theorem listing_of_parameters {filter : Fields Value} {filters : Parameters} (hoffset : withinDigitLimit p.offset)
    (hlimit : withinDigitLimit p.perPage) (hfilters : d.filters.parameters filter = .ok filters) :
    d.listing key ⟨p, sort, .map filter⟩ =
      .ok (Fields.ofPairs (pageParameters d key ⟨p, sort, .map filter⟩ ++ filters)) :=
  listing_of_translation hoffset hlimit (by rw [entriesOf_map]; exact hfilters)

/-- The order and the page are texts, so that a listing holds texts and what its filter holds. -/
theorem listing_of_forall (kind : List Glyph × Value → Prop) (htexts : ∀ name s, kind (glyphsOf name, .text s))
    {filter : Fields Value} {filters : Parameters} (hoffset : withinDigitLimit p.offset)
    (hlimit : withinDigitLimit p.perPage) (hfilters : d.filters.parameters filter = .ok filters)
    (hkinds : ∀ parameter ∈ filters, kind parameter) :
    ∃ fields, d.listing key ⟨p, sort, .map filter⟩ = .ok fields ∧ ∀ parameter ∈ fields, kind parameter := by
  refine ⟨_, listing_of_parameters hoffset hlimit hfilters, fun parameter hparameter => ?_⟩
  rcases List.mem_append.mp (Fields.mem_ofPairs hparameter) with hpage | hfilter
  · simp only [pageParameters, List.mem_cons, List.not_mem_nil, or_false] at hpage
    rcases hpage with rfl | rfl | rfl <;> exact htexts _ _
  · exact hkinds parameter hfilter

theorem writable_of_sound {parameter : List Glyph × Value} (hsound : Sound doubles parameter) :
    Whole parameter.1 ∧ Writable parameter.2 :=
  ⟨hsound.name, _, writtenAs_of_data hsound.data hsound.depth⟩

theorem sound_text (name s : String) : Sound doubles (glyphsOf name, .text s) :=
  ⟨whole_glyphsOf name, .text s, Nat.zero_le _⟩

theorem listing_of_data {filter : Fields Value} (hmark : d.filters.separator = String.singleton mark)
    (hoffset : withinDigitLimit p.offset) (hlimit : withinDigitLimit p.perPage)
    (hnames : ∀ field ∈ filter, Key.WellFormed mark field.1) (hvalues : ∀ field ∈ filter, Data doubles field.2)
    (hroom : ∀ field ∈ filter, Roomy mark field) :
    ∃ fields, d.listing key ⟨p, sort, .map filter⟩ = .ok fields ∧ ∀ parameter ∈ fields, Sound doubles parameter := by
  obtain ⟨filters, hfilters, hsound⟩ := parameters_of_data hmark hnames hvalues hroom
  exact listing_of_forall (Sound doubles) sound_text hoffset hlimit hfilters hsound

theorem mem_names_listing {filter : Fields Value} {filters fields : Parameters} (hoffset : withinDigitLimit p.offset)
    (hlimit : withinDigitLimit p.perPage) (hfilters : d.filters.parameters filter = .ok filters)
    (hfields : d.listing key ⟨p, sort, .map filter⟩ = .ok fields) (name : List Glyph) :
    name ∈ fields.names ↔ name ∈ ["order", "offset", "limit"].map glyphsOf ∨ name ∈ filters.names := by
  rw [listing_of_parameters hoffset hlimit hfilters] at hfields
  cases hfields
  rw [Fields.mem_names_ofPairs, List.map_append, List.mem_append]
  rfl

/-- Limiting a listing to what refers to a record adds one condition to its parameters. -/
theorem listingOf_of_forall (kind : List Glyph × Value → Prop) (target : Option String) {id : Value} {l : Listing}
    {text : List Glyph} (hid : id.asInset = .ok text)
    (hcondition : ∀ name, kind (glyphsOf name, .ofGlyphs (glyphsOf "eq." ++ text))) {fields : Parameters}
    (hlisting : d.listing key l = .ok fields) (hfields : ∀ parameter ∈ fields, kind parameter) :
    ∃ limited, d.listingOf key target id l = .ok limited ∧ ∀ parameter ∈ limited, kind parameter := by
  rw [Dialect.listingOf]
  cases target.filter (!·.isEmpty) with
  | none => exact ⟨fields, hlisting, hfields⟩
  | some target =>
    simp only [reference_eq hid, hlisting, bind, Except.bind]
    refine ⟨_, rfl, fun parameter hparameter => ?_⟩
    rcases Fields.mem_merge hparameter with hown | hmem
    · rw [List.mem_singleton.mp hown]
      exact hcondition target
    · exact hfields parameter hmem

/-- Limiting a listing to what refers to a record changes neither whether it has parameters nor whether these can be
sent. -/
theorem listingOf_of_listing (target : Option String) {id : Value} {l : Listing} {text : List Glyph}
    (hid : id.asInset = .ok text) (hwhole : Whole text) {fields : Parameters}
    (hlisting : d.listing key l = .ok fields) (hsound : ∀ parameter ∈ fields, Sound doubles parameter) :
    ∃ limited, d.listingOf key target id l = .ok limited ∧ ∀ parameter ∈ limited, Sound doubles parameter :=
  listingOf_of_forall (Sound doubles) target hid
    (fun name => sound_glyphs (whole_glyphsOf name) ((whole_glyphsOf _).append hwhole)) hlisting hsound

theorem nodup_names_listing {l : Listing} {fields : Parameters} (hfields : d.listing key l = .ok fields) :
    fields.names.Nodup := by
  obtain ⟨page, -, hrest⟩ := Sequence.bind_eq_ok_iff.mp hfields
  obtain ⟨filter, -, hrest⟩ := Sequence.bind_eq_ok_iff.mp hrest
  obtain ⟨filters, -, hlisted⟩ := Sequence.bind_eq_ok_iff.mp hrest
  cases hlisted
  exact Fields.nodup_names_ofPairs _

/-- No two parameters of a listing have one name. -/
theorem nodup_names_listingOf {target : Option String} {id : Value} {l : Listing} {limited : Parameters}
    (hlimited : d.listingOf key target id l = .ok limited) : limited.names.Nodup := by
  rw [Dialect.listingOf] at hlimited
  split at hlimited
  · exact nodup_names_listing hlimited
  · obtain ⟨condition, -, hrest⟩ := Sequence.bind_eq_ok_iff.mp hlimited
    obtain ⟨fields, -, hmerged⟩ := Sequence.bind_eq_ok_iff.mp hrest
    cases hmerged
    exact Fields.nodup_names_merge (by simp [Fields.names]) fields

/-- The condition of a reference stays in a listing that does not use its name for anything else. -/
theorem get?_listingOf {target : String} (hnonempty : target ≠ "") {id : Value} {l : Listing} {text : List Glyph}
    (hid : id.asInset = .ok text) {fields limited : Parameters} (hlisting : d.listing key l = .ok fields)
    (hfree : glyphsOf target ∉ fields.names) (hlimited : d.listingOf key (some target) id l = .ok limited) :
    limited.get? (glyphsOf target) = some (.ofGlyphs (glyphsOf "eq." ++ text)) := by
  have htarget : (some target).filter (!·.isEmpty) = some target := by simp [hnonempty]
  rw [Dialect.listingOf, htarget] at hlimited
  simp only [reference_eq hid, hlisting, bind, Except.bind] at hlimited
  cases hlimited
  rw [Fields.get?_merge_of_not_mem hfree, Fields.get?_cons, if_pos rfl]

/-- The order of a listing is sent as it is, unless a filter takes its place. -/
theorem get?_order_of_listing {l : Listing} {filter : Fields Value} {filters fields : Parameters}
    (hfilter : Filter.entriesOf l.filter = .ok filter) (hfilters : d.filters.parameters filter = .ok filters)
    (hfree : glyphsOf "order" ∉ filters.names) (hfields : d.listing key l = .ok fields) :
    fields.get? (glyphsOf "order") = some (.text (d.order l.sort key)) := by
  obtain ⟨page, hpage, hrest⟩ := Sequence.bind_eq_ok_iff.mp hfields
  simp only [hfilter, hfilters, bind, Except.bind] at hrest
  cases hrest
  obtain ⟨offset, -, hpage⟩ := Sequence.bind_eq_ok_iff.mp hpage
  obtain ⟨limit, -, hpage⟩ := Sequence.bind_eq_ok_iff.mp hpage
  cases hpage
  let page : Parameters := [(glyphsOf "order", .text (d.order l.sort key)), (glyphsOf "offset", .text offset),
    (glyphsOf "limit", .text limit)]
  have hpage : Fields.ofPairs page = page := Fields.ofPairs_of_nodup nodup_pageNames
  rw [Fields.ofPairs_append, Fields.get?_merge_of_not_mem hfree]
  change (Fields.ofPairs page).get? _ = _
  rw [hpage, Fields.get?_cons, if_pos rfl]

/-- Limiting a listing to what refers to a record keeps the other parameters. -/
theorem get?_of_listingOf {target : Option String} {id : Value} {l : Listing} {limited : Parameters}
    {name : List Glyph} {v : Value} (hlimited : d.listingOf key target id l = .ok limited)
    (hlisting : ∀ fields, d.listing key l = .ok fields → fields.get? name = some v) :
    limited.get? name = some v := by
  rw [Dialect.listingOf] at hlimited
  split at hlimited
  · exact hlisting limited hlimited
  · obtain ⟨condition, -, hrest⟩ := Sequence.bind_eq_ok_iff.mp hlimited
    obtain ⟨fields, hfields, hmerged⟩ := Sequence.bind_eq_ok_iff.mp hrest
    cases hmerged
    rw [Fields.get?_merge (nodup_names_listing hfields), hlisting fields hfields]
    rfl

end

end TableGateway.Query
