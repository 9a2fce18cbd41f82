import TableGateway.Proofs.Gateway.Request

/-!
The order of a listing for which no order is asked. It is the standard order by the field `id`, ascending, and
only a gateway whose generic field has that name takes it for the order by the key.
-/

namespace TableGateway

open TableGateway.Check TableGateway.Check.Checked TableGateway.Json TableGateway.Number TableGateway.Query
open TableGateway.Text
open TableGateway.Operation (Identifier ListParameters)

/-- The listing that an operation asks for. -/
def Operation.listing? : Operation → Option ListParameters
  | .getList p => some p
  | .getManyReference p => some p.toListParameters
  | _ => none

/-- The identifier of the record that a listing refers to. -/
def Operation.reference? : Operation → Option Identifier
  | .getManyReference p => p.id
  | _ => none

namespace Query

/-- The order by all fields of a key, each ascending. -/
def ascending (key : PrimaryKey) : String := ",".intercalate (key.map (· ++ ".asc"))

theorem order_standard (d : Dialect) (key : PrimaryKey) :
    d.order .standard key = if d.idField = "id" then ascending key else "id.asc" := by
  have hfield : ∀ name : String, name ++ "." ++ Direction.ascending.word = name ++ ".asc" := by
    intro name
    rw [String.append_assoc]
    rfl
  have hid : ("id" = d.idField) = (d.idField = "id") := propext eq_comm
  simp only [Dialect.order, SortBy.standard, hfield, hid]
  rfl

theorem ascending_eq_iff {key : PrimaryKey} (hkey : key ≠ []) : ascending key = "id.asc" ↔ key = ["id"] := by
  constructor
  · intro heq
    cases key with
    | nil => exact absurd rfl hkey
    | cons name rest =>
      cases rest with
      | nil =>
        have hname : name ++ ".asc" = "id" ++ ".asc" := by simpa [ascending] using heq
        have hchars := congrArg String.toList hname
        rw [String.toList_append, String.toList_append] at hchars
        rw [String.toList_inj.mp (List.append_cancel_right hchars)]
      | cons next rest =>
        -- With a second field there is a comma.
        have hcomma : ',' ∈ (ascending (name :: next :: rest)).toList := by
          simp [ascending, String.toList_intercalate]
        rw [heq] at hcomma
        exact absurd hcomma (by decide)
  · rintro rfl
    rfl

end Query

theorem sort_of_listFields {data : Fields Value} {p : ListParameters} (hp : Operation.listFields data = .accepted p)
    (hunsorted : data.get? "sort" = none) : p.sort = .standard := by
  simp only [Operation.listFields, seq_eq_accepted_iff, map_eq_accepted_iff] at hp
  obtain ⟨_, _, ⟨_, sort, ⟨_, -, rfl⟩, hsort, rfl⟩, -, rfl⟩ := hp
  rcases optional_eq_accepted_iff.mp hsort with ⟨-, hstandard⟩ | ⟨v, hv, -⟩
  · exact hstandard.symm
  · rw [hunsorted] at hv
    cases hv

/-- A listing has the standard order when its parameters have none. -/
theorem sort_of_unsorted {name : Operation.Name} {data : Fields Value} {op : Operation} {p : ListParameters}
    (hop : Operation.ofValue name (.map data) = .accepted op) (hlisting : op.listing? = some p)
    (hunsorted : data.get? "sort" = none) : p.sort = .standard := by
  cases name
  case getList =>
    obtain ⟨q, hq, rfl⟩ := map_eq_accepted_iff.mp hop
    cases hlisting
    exact sort_of_listFields hq hunsorted
  case getManyReference =>
    obtain ⟨q, hq, rfl⟩ := map_eq_accepted_iff.mp hop
    cases hlisting
    have hfields : ∃ listed, Operation.listFields data = .accepted listed ∧ q.toListParameters = listed := by
      simp only [Operation.reference, parameters, Value.fields?, seq_eq_accepted_iff, map_eq_accepted_iff] at hq
      obtain ⟨_, _, ⟨_, _, ⟨listed, hlisted, rfl⟩, -, rfl⟩, -, rfl⟩ := hq
      exact ⟨listed, hlisted, rfl⟩
    obtain ⟨listed, hlisted, heq⟩ := hfields
    rw [heq]
    exact sort_of_listFields hlisted hunsorted
  all_goals
    obtain ⟨q, -, rfl⟩ := map_eq_accepted_iff.mp hop
    cases hlisting

section

variable {g : Gateway} {resource : String}

theorem request_of_listing {op : Operation} {p : ListParameters} (hlisting : op.listing? = some p) :
    ∃ target, g.request resource op = g.listRequest resource p target op.reference? := by
  cases op <;> cases hlisting
  · exact ⟨none, rfl⟩
  · exact ⟨_, rfl⟩

/-- The request of a listing asks for the order that its parameters name, unless a filter takes its place. -/
theorem order_of_listRequest {p : ListParameters} {target : Option String} {id? : Option Identifier}
    {filters : Parameters} (hfilters : g.settings.dialect.filters.parameters p.filter = .ok filters)
    (hfree : glyphsOf "order" ∉ filters.names) {request : Request}
    (hrequest : g.listRequest resource p target id? = .ok request) :
    ∃ query fields, request.method = "GET" ∧ request.url = g.queryUrl resource query ∧
      Form.decode? query = some fields ∧ fields.names.Nodup ∧
      fields.get? "order" = some (g.settings.dialect.order p.sort (g.primaryKey resource)) := by
  obtain ⟨limited, hlimited, hrest⟩ := Sequence.bind_eq_ok_iff.mp hrequest
  obtain ⟨query, hquery, hsent⟩ := Sequence.bind_eq_ok_iff.mp hrest
  cases hsent
  have horder : limited.get? (glyphsOf "order") =
      some (.text (g.settings.dialect.order p.sort (g.primaryKey resource))) :=
    get?_of_listingOf hlimited fun fields => get?_order_of_listing (entriesOf_map p.filter) hfilters hfree
  obtain ⟨fields, hdecode, hnames, hget⟩ := get?_of_encode hquery (nodup_names_listingOf hlimited) horder
  exact ⟨query, fields, rfl, rfl, hdecode, hnames, hget⟩

/-- A listing is sent when its numbers and the parameters of its filter can be written. -/
theorem exists_listRequest {p : ListParameters} {id? : Option Identifier} {filters : Parameters}
    (hfilters : g.settings.dialect.filters.parameters p.filter = .ok filters)
    (hoffset : withinDigitLimit p.pagination.offset) (hlimit : withinDigitLimit p.pagination.perPage)
    (hfits : ∀ id ∈ id?, id.toValue.fits)
    (hwritten : ∀ parameter ∈ filters, Whole parameter.1 ∧ Writable parameter.2) (target : Option String) :
    ∃ request, g.listRequest resource p target id? = .ok request := by
  let Sent (parameter : List Glyph × Value) : Prop := Whole parameter.1 ∧ Writable parameter.2
  have hlisted : ∃ fields, g.settings.dialect.listing (g.primaryKey resource)
      ⟨p.pagination, p.sort, .map p.filter⟩ = .ok fields ∧ ∀ parameter ∈ fields, Sent parameter :=
    listing_of_forall Sent (fun name s => ⟨whole_glyphsOf name, writable_text s⟩) hoffset hlimit hfilters hwritten
  obtain ⟨fields, hfields, hall⟩ := hlisted
  obtain ⟨text, htext⟩ := whole_iff.mp (whole_reference id?)
  have hcondition : ∀ name,
      Sent (glyphsOf name, .ofGlyphs (glyphsOf "eq." ++ (id?.elim .null Identifier.toValue).scalar)) := by
    intro name
    rw [← htext, ← glyphsOf_append, Value.ofGlyphs_glyphsOf]
    exact ⟨whole_glyphsOf name, writable_text _⟩
  obtain ⟨limited, hlimited, hall⟩ :=
    listingOf_of_forall Sent target (Key.asInset_reference hfits) hcondition hfields hall
  obtain ⟨query, hquery⟩ := exists_encode hall
  exact ⟨_, listRequest_of_listingOf hlimited hquery⟩

end

/-- A listing for which no order is asked is sent whenever its numbers and its filter values can be written. It asks
for the order by all fields of the key where `id` is the generic field, and for the order by the field `id`
elsewhere, which is the order by the key only if that is the standard one. -/
theorem unsorted_listing_ordered {config : Value} {settings : Settings}
    (hgateway : Gateway.ofValue config = .ok ⟨settings⟩) {name : Operation.Name} {data : Fields Value} {op : Operation}
    {p : ListParameters} (hop : Operation.ofValue name (.map data) = .accepted op) (hlisting : op.listing? = some p)
    (hunsorted : data.get? "sort" = none) {filters : Parameters}
    (hfilters : settings.dialect.filters.parameters p.filter = .ok filters) (hfree : glyphsOf "order" ∉ filters.names)
    (resource : String) :
    (withinDigitLimit p.pagination.offset → withinDigitLimit p.pagination.perPage →
      (∀ id ∈ op.reference?, id.toValue.fits) →
      (∀ parameter ∈ filters, Whole parameter.1 ∧ Writable parameter.2) →
      ∃ request, ∀ client : Client,
        (Gateway.perform ⟨settings⟩ client resource name (.map data)).sent = some request) ∧
    ∀ (client : Client) (request : Request),
      (Gateway.perform ⟨settings⟩ client resource name (.map data)).sent = some request →
      ∃ query fields, request.method = "GET" ∧
        request.url = settings.apiUrl ++ "/" ++ resource ++ "?" ++ query ∧
        Form.decode? query = some fields ∧ fields.names.Nodup ∧
        fields.get? "order" =
          some (if settings.idField = "id" then ascending (settings.primaryKey resource) else "id.asc") ∧
        (fields.get? "order" = some (ascending (settings.primaryKey resource)) ↔
          settings.idField = "id" ∨ settings.primaryKey resource = ["id"]) := by
  have hkey : settings.primaryKey resource ≠ [] := (Gateway.valid_of_ofValue hgateway).primaryKey_ne_nil resource
  have hrequests : ∃ target, Gateway.request ⟨settings⟩ resource op =
      Gateway.listRequest ⟨settings⟩ resource p target op.reference? := request_of_listing hlisting
  obtain ⟨target, htarget⟩ := hrequests
  constructor
  · intro hoffset hlimit hfits hwritten
    have hsends : ∃ request, Gateway.listRequest ⟨settings⟩ resource p target op.reference? = .ok request :=
      exists_listRequest hfilters hoffset hlimit hfits hwritten target
    obtain ⟨request, hrequest⟩ := hsends
    refine ⟨request, fun client => ?_⟩
    rw [perform_of_request hop (htarget.trans hrequest)]
  · intro client request hsent
    have hrequest : Gateway.listRequest ⟨settings⟩ resource p target op.reference? = .ok request := by
      rw [perform_of_accepted hop, Gateway.run, htarget] at hsent
      split at hsent
      · cases hsent
      · next sent hrequest =>
        cases hsent
        exact hrequest
    obtain ⟨query, fields, hmethod, hurl, hdecode, hnames, horder⟩ := order_of_listRequest hfilters hfree hrequest
    rw [sort_of_unsorted hop hlisting hunsorted, order_standard] at horder
    refine ⟨query, fields, hmethod, hurl, hdecode, hnames, horder, ?_⟩
    rw [horder]
    change some (if settings.idField = "id" then ascending (settings.primaryKey resource) else "id.asc") = _ ↔ _
    by_cases hid : settings.idField = "id"
    · rw [if_pos hid]
      exact ⟨fun _ => .inl hid, fun _ => rfl⟩
    · rw [if_neg hid, Option.some.injEq, eq_comm, ascending_eq_iff hkey]
      exact ⟨.inr, fun h => h.resolve_left hid⟩

/-- A first page of what holds a text, in no order. -/
def someTexts : ListParameters := ⟨.standard, .standard, [("text", .text "x")]⟩

def someTextsData : Fields Value := [("filter", .map [("text", .text "x")])]

theorem unsorted_listing_ordered_someTexts :
    Gateway.ofValue Settings.tableConfig = .ok ⟨Settings.table⟩ ∧
      Operation.ofValue .getList (.map someTextsData) = .accepted (.getList someTexts) ∧
      ∃ request query fields, request.url = "http://host/t?" ++ query ∧ Form.decode? query = some fields ∧
        fields.get? "order" = some "a.asc,b.asc" ∧ ∀ client : Client,
          (Gateway.perform ⟨Settings.table⟩ client "t" .getList (.map someTextsData)).sent = some request := by
  have hgateway : Gateway.ofValue Settings.tableConfig = .ok ⟨Settings.table⟩ := rfl
  have hop : Operation.ofValue .getList (.map someTextsData) = .accepted (.getList someTexts) := rfl
  have hfilters : Settings.table.dialect.filters.parameters someTexts.filter =
      .ok (underTexts [("text", .text "ilike.*x*")]) := rfl
  have hoffset : withinDigitLimit someTexts.pagination.offset := withinDigitLimit_of_lt 2 (by decide) (by decide)
  have hlimit : withinDigitLimit someTexts.pagination.perPage := withinDigitLimit_of_lt 2 (by decide) (by decide)
  obtain ⟨hsends, horders⟩ := unsorted_listing_ordered hgateway hop rfl rfl hfilters (by decide) "t"
  obtain ⟨request, hsent⟩ := hsends hoffset hlimit nofun
    (List.forall_mem_singleton.mpr ⟨whole_glyphsOf "text", writable_text "ilike.*x*"⟩)
  obtain ⟨query, fields, -, hurl, hdecode, -, horder, -⟩ :=
    horders (fun _ => .error .noClient) request (hsent _)
  exact ⟨hgateway, hop, request, query, fields, hurl, hdecode, horder, hsent⟩

/-- A service whose generic field is not `id`. -/
def renamedService : Settings := ⟨"http://api.test", "eq", [("t", ["a", "b"])], "rpc/", "@", "_id"⟩

/-- Under another generic field a listing without an order is not sent in the order of the key. -/
theorem order_by_id_sent :
    Gateway.ofValue (.map [("api_url", .text "http://api.test/"),
        ("primary_keys", .map [("t", .list [.text "a", .text "b"])]), ("id_field", .text "_id")]) =
          .ok ⟨renamedService⟩ ∧
      Operation.ofValue .getList (.map []) = .accepted (.getList ⟨.standard, .standard, []⟩) ∧
      renamedService.dialect.filters.parameters [] = .ok [] ∧
      ascending (renamedService.primaryKey "t") = "a.asc,b.asc" ∧
      Form.decode? "order=id.asc&offset=0&limit=25" =
        some [("order", "id.asc"), ("offset", "0"), ("limit", "25")] ∧
      ∀ client : Client, (Gateway.perform ⟨renamedService⟩ client "t" .getList (.map [])).sent =
        some ⟨"GET", "http://api.test/t?order=id.asc&offset=0&limit=25", listHeaders, none⟩ := by
  have hop : Operation.ofValue .getList (.map []) = .accepted (.getList ⟨.standard, .standard, []⟩) := rfl
  have hrequest : (Gateway.request ⟨renamedService⟩ "t" (.getList ⟨.standard, .standard, []⟩)).toOption =
      some ⟨"GET", "http://api.test/t?order=id.asc&offset=0&limit=25", listHeaders, none⟩ := by
    decide +kernel
  refine ⟨rfl, hop, rfl, rfl, by decide +kernel, ?_⟩
  intro client
  rw [perform_of_accepted hop, Gateway.run, Sequence.eq_ok_of_toOption hrequest]

end TableGateway
