import TableGateway.Proofs.Form
import TableGateway.Proofs.Gateway.Request
import TableGateway.Proofs.Query.Lossless

/-!
Listings that are limited to what refers to a record. The condition on the target field is set first, and what is
set behind it takes the place of a condition of the same name: the order, the offset, the limit, and the filter of
the caller. With any other name for the target the condition arrives at the service as it was meant, and it arrives
once.
-/

namespace TableGateway

open TableGateway.Json TableGateway.Number TableGateway.Query TableGateway.Text
open TableGateway.Operation (Identifier ReferenceParameters)

variable {settings : Settings}

theorem scalar_reference (id? : Option Identifier) :
    ∃ text, (id?.elim .null Identifier.toValue).scalar = glyphsOf text := by
  obtain ⟨text, htext⟩ := whole_iff.mp (whole_reference id?)
  exact ⟨text, htext.symm⟩

/-- The condition of a reference is in the query of its listing, unless a parameter behind it has its name. -/
theorem reference_listing_scoped {config : Value} (hsettings : Settings.ofValue config = .ok settings)
    {parameters : Value} {p : ReferenceParameters}
    (hop : Operation.ofValue .getManyReference parameters = .accepted (.getManyReference p))
    (hplain : (Operation.getManyReference p).Plain settings.separator) {target : String}
    (htarget : p.target = some target) (hnonempty : target ≠ "") (hreserved : target ∉ ["order", "offset", "limit"])
    {filters : Parameters} (hfilters : settings.dialect.filters.parameters p.filter = .ok filters)
    (hfree : glyphsOf target ∉ filters.names) (resource : String) :
    ∃ query fields text, Form.decode? query = some fields ∧ fields.names.Nodup ∧
      fields.get? target = some ("eq." ++ text) ∧ (p.id.elim .null Identifier.toValue).scalar = glyphsOf text ∧
      ∃ request : Request, request.method = "GET" ∧
        request.url = settings.apiUrl ++ "/" ++ resource ++ "?" ++ query ∧
        ∀ client : Client,
          (Gateway.perform ⟨settings⟩ client resource .getManyReference parameters).sent = some request := by
  obtain ⟨mark, hmark⟩ := Settings.separator_of_ofValue hsettings
  obtain ⟨⟨hoffset, hlimit, hfilter, hroom⟩, hfits⟩ := hplain
  have hnames : ∀ field ∈ p.filter, Filter.Key.WellFormed mark field.1 :=
    Filter.wellFormed_of_parameters hmark hfilters
  have hlisting : ∃ fields, settings.dialect.listing (settings.primaryKey resource)
      ⟨p.pagination, p.sort, .map p.filter⟩ = .ok fields ∧ ∀ parameter ∈ fields, Filter.Sound true parameter :=
    listing_of_data hmark hoffset hlimit hnames hfilter (hroom mark hmark)
  obtain ⟨listed, hlisted, hsound⟩ := hlisting
  have hfresh : glyphsOf target ∉ listed.names := by
    rw [mem_names_listing hoffset hlimit hfilters hlisted, not_or]
    refine ⟨fun hmem => hreserved ?_, hfree⟩
    obtain ⟨name, hname, heq⟩ := List.mem_map.mp hmem
    rwa [← glyphsOf_inj.mp heq]
  obtain ⟨limited, hlimited, hsound⟩ :=
    listingOf_of_listing (some target) (Key.asInset_reference hfits) (whole_reference p.id) hlisted hsound
  obtain ⟨query, hquery⟩ := exists_encode fun parameter hparameter => writable_of_sound (hsound parameter hparameter)
  obtain ⟨text, htext⟩ := scalar_reference p.id
  have hcondition : limited.get? (glyphsOf target) = some (.text ("eq." ++ text)) := by
    rw [get?_listingOf hnonempty (Key.asInset_reference hfits) hlisted hfresh hlimited, htext, ← glyphsOf_append,
      Value.ofGlyphs_glyphsOf]
  obtain ⟨fields, hdecode, hnodup, hget⟩ := get?_of_encode hquery (nodup_names_listingOf hlimited) hcondition
  have hrequest : Gateway.request ⟨settings⟩ resource (.getManyReference p) =
      .ok ⟨"GET", Gateway.queryUrl ⟨settings⟩ resource query, listHeaders, none⟩ := by
    rw [← htarget] at hlimited
    exact listRequest_of_listingOf hlimited hquery
  refine ⟨query, fields, text, hdecode, hnodup, hget, htext, ⟨"GET", _, listHeaders, none⟩, rfl, rfl, fun client => ?_⟩
  rw [perform_of_request hop hrequest]
  rfl

/-- Replies to a record, on the second page: the target, the identifier and the filter hold marks of queries. -/
def replies : ReferenceParameters :=
  { pagination := ⟨2, 25⟩, sort := .standard, filter := [("order@like", .text "&="), ("text", .text "a:b")]
    target := some "parent&id", id := some (.text "7,8") }

theorem reference_listing_scoped_replies :
    Settings.ofValue Settings.tableConfig = .ok Settings.table ∧
      Operation.ofValue .getManyReference (.map (Operation.referenceData replies)) =
        .accepted (.getManyReference replies) ∧
      (Operation.getManyReference replies).Plain "@" ∧
      ∃ query fields, Form.decode? query = some fields ∧ fields.get? "parent&id" = some "eq.7,8" ∧
        ∃ request : Request, request.url = "http://host/posts?" ++ query ∧ ∀ client : Client,
          (Gateway.perform ⟨Settings.table⟩ client "posts" .getManyReference
            (.map (Operation.referenceData replies))).sent = some request := by
  have hsettings : Settings.ofValue Settings.tableConfig = .ok Settings.table := rfl
  have hop : Operation.ofValue .getManyReference (.map (Operation.referenceData replies)) =
      .accepted (.getManyReference replies) := rfl
  have hoffset : withinDigitLimit replies.pagination.offset := withinDigitLimit_of_lt 2 (by decide) (by decide)
  have hlimit : withinDigitLimit replies.pagination.perPage := withinDigitLimit_of_lt 2 (by decide) (by decide)
  have hplain : (Operation.getManyReference replies).Plain "@" := by
    refine ⟨⟨hoffset, hlimit, ?_, fun mark _ => ?_⟩, ?_⟩
    · simp only [replies, List.forall_mem_cons]
      exact ⟨.text _, .text _, by simp⟩
    · simp only [replies, List.forall_mem_cons]
      exact ⟨Filter.roomy_of_le (Nat.zero_le _), Filter.roomy_of_le (Nat.zero_le _), by simp⟩
    · intro id hid
      cases hid
      rfl
  have hfilters : Settings.table.dialect.filters.parameters replies.filter =
      .ok (underTexts [("order@like", .text "like.*&=*"), ("text", .text "ilike.*ab*")]) := rfl
  obtain ⟨query, fields, text, hdecode, -, hbound, htext, request, -, hurl, hsent⟩ :=
    reference_listing_scoped hsettings hop hplain rfl (by decide) (by decide) hfilters (by decide) "posts"
  obtain rfl : "7,8" = text := glyphsOf_inj.mp htext
  exact ⟨hsettings, hop, hplain, query, fields, hdecode, hbound, request, hurl, hsent⟩

/-- What refers to the record 7 by its field `order`. -/
def ordered : ReferenceParameters :=
  { pagination := .standard, sort := .standard, filter := [], target := some "order", id := some (.int 7) }

/-- What refers to the record 7, filtered by an argument that lies too deep to be written. -/
def argued : ReferenceParameters :=
  { pagination := .standard, sort := .standard, filter := [("p@arg", deepParameter)], target := some "parent"
    id := some (.int 7) }

theorem page_standard :
    withinDigitLimit Pagination.standard.offset ∧ withinDigitLimit Pagination.standard.perPage :=
  ⟨withinDigitLimit_of_lt 2 (by decide) (by decide), withinDigitLimit_of_lt 2 (by decide) (by decide)⟩

/-- The request of a listing need not have the condition. A target may have the name of another parameter of the
listing, and then the condition is not sent; and nothing is sent at all when a filter, translated as it is, lies too
deep. -/
theorem reference_not_in_request :
    Settings.ofValue Settings.tableConfig = .ok Settings.table ∧
      (Operation.ofValue .getManyReference (.map (Operation.referenceData ordered)) =
          .accepted (.getManyReference ordered) ∧
        (Operation.getManyReference ordered).Plain "@" ∧
        Settings.table.dialect.filters.parameters ordered.filter = .ok [] ∧
        Form.decode? "order=id.asc&offset=0&limit=25" =
          some [("order", "id.asc"), ("offset", "0"), ("limit", "25")] ∧
        ∀ client : Client, (Gateway.perform ⟨Settings.table⟩ client "posts" .getManyReference
          (.map (Operation.referenceData ordered))).sent =
            some ⟨"GET", "http://host/posts?order=id.asc&offset=0&limit=25", listHeaders, none⟩) ∧
      Operation.ofValue .getManyReference (.map (Operation.referenceData argued)) =
          .accepted (.getManyReference argued) ∧
        Data false deepParameter ∧
        Settings.table.dialect.filters.parameters argued.filter = .ok (underTexts argued.filter) ∧
        ∀ client : Client, Gateway.perform ⟨Settings.table⟩ client "posts" .getManyReference
          (.map (Operation.referenceData argued)) = ⟨none, .error .tooDeep⟩ := by
  obtain ⟨hoffset, hlimit⟩ := page_standard
  refine ⟨rfl, ?_, ?_⟩
  · have hop : Operation.ofValue .getManyReference (.map (Operation.referenceData ordered)) =
        .accepted (.getManyReference ordered) := rfl
    have hplain : (Operation.getManyReference ordered).Plain "@" := by
      refine ⟨⟨hoffset, hlimit, by simp [ordered], by simp [ordered]⟩, ?_⟩
      intro id hid
      cases hid
      exact withinDigitLimit_of_lt_ten (by decide)
    have hrequest : (Gateway.request ⟨Settings.table⟩ "posts" (.getManyReference ordered)).toOption =
        some ⟨"GET", "http://host/posts?order=id.asc&offset=0&limit=25", listHeaders, none⟩ := by
      decide +kernel
    refine ⟨hop, hplain, rfl, by decide +kernel, fun client => ?_⟩
    rw [perform_of_accepted hop, Gateway.run, Sequence.eq_ok_of_toOption hrequest]
  · have hop : Operation.ofValue .getManyReference (.map (Operation.referenceData argued)) =
        .accepted (.getManyReference argued) := rfl
    have hfilters : Settings.table.dialect.filters.parameters argued.filter = .ok (underTexts argued.filter) := rfl
    refine ⟨hop, data_deepParameter, hfilters, fun client => ?_⟩
    have hid : ∀ id ∈ argued.id, id.toValue.fits := by
      intro id hid
      cases hid
      exact withinDigitLimit_of_lt_ten (by decide)
    -- Everything but the argument is a text, so that nothing else can fail.
    have htexts : ∀ name s, FailsOnlyAs .tooDeep (glyphsOf name, .text s) := fun name s => .inl ⟨.text s, rfl⟩
    have hlisting : ∃ fields, Settings.table.dialect.listing ["id"]
        ⟨argued.pagination, argued.sort, .map argued.filter⟩ = .ok fields ∧
          ∀ parameter ∈ fields, FailsOnlyAs .tooDeep parameter :=
      listing_of_forall _ htexts hoffset hlimit hfilters (List.forall_mem_singleton.mpr (.inr sent_deepParameter))
    obtain ⟨fields, hfields, hkinds⟩ := hlisting
    obtain ⟨limited, hlimited, hothers⟩ := listingOf_of_forall _ argued.target (Key.asInset_reference hid)
      (fun name => .glyphs .tooDeep (glyphsOf name) _) hfields hkinds
    have hargument : limited.get? (glyphsOf "p@arg") = some deepParameter := by
      refine get?_of_listingOf hlimited fun listed hlisted => ?_
      have hlisting := (listing_of_parameters hoffset hlimit hfilters).symm.trans hlisted
      cases hlisting
      rfl
    have hrequest : Gateway.request ⟨Settings.table⟩ "posts" (.getManyReference argued) = .error .tooDeep :=
      listRequest_of_unsent hlimited (encode_eq_error (Fields.mem_of_get? hargument) sent_deepParameter hothers)
    rw [perform_of_accepted hop, Gateway.run, hrequest]

end TableGateway
