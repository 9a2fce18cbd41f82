import TableGateway.Gateway
import TableGateway.Proofs.Query.Encoding
import TableGateway.Proofs.Query.Listing
import TableGateway.Proofs.Query.Match
import TableGateway.Proofs.Record
import TableGateway.Proofs.Settings

/-!
The one request of an operation. The parameters considered here hold JSON data and can be written out, so that
bodies always come about, and so does the query of a listing with well formed filter keys. What is left are the
identifiers: they must spell values of the key and suit the resource.
-/

namespace TableGateway

open TableGateway.Json TableGateway.Key TableGateway.Number TableGateway.Query TableGateway.Text
open TableGateway.Operation (Identifier ListParameters)

/-- A gateway is set up with settings that can be relied on. -/
theorem Gateway.valid_of_ofValue {config : Value} {settings : Settings}
    (hgateway : Gateway.ofValue config = .ok ⟨settings⟩) : settings.Valid := by
  obtain ⟨_, hsettings, hrest⟩ := Sequence.bind_eq_ok_iff.mp hgateway
  obtain ⟨registry, hregistry, heq⟩ := Sequence.bind_eq_ok_iff.mp hrest
  cases heq
  exact Settings.valid_of_registry hsettings hregistry

/-- The identifiers that an operation addresses its records by. -/
def Operation.ids? : Operation → Option (List Identifier)
  | .getOne id | .update id _ | .delete id => some [id]
  | .getMany ids | .updateMany ids _ | .deleteMany ids => some ids
  | .getList _ | .getManyReference _ | .create _ => none

/-- The data that an operation writes. -/
def Operation.data? : Operation → Option (Fields Value)
  | .create data | .update _ data | .updateMany _ data => some data
  | _ => none

/-- The filter of a listing. -/
def Operation.filter? : Operation → Option (Fields Value)
  | .getList p => some p.filter
  | .getManyReference p => some p.filter
  | _ => none

/-- Fields of JSON data that there is room for in a body. -/
structure Operation.Body (data : Fields Value) : Prop where
  values : ∀ field ∈ data, Data true field.2
  depth : Value.nesting (.map data) ≤ depthLimit

/-- A listing with a filter of JSON data that there is room for, whose page can be written. -/
structure Operation.ListParameters.Plain (separator : String) (p : ListParameters) : Prop where
  offset : withinDigitLimit p.pagination.offset
  limit : withinDigitLimit p.pagination.perPage
  filter : ∀ field ∈ p.filter, Data true field.2
  room : ∀ mark, separator = String.singleton mark → ∀ field ∈ p.filter, Filter.Roomy mark field

/-- Parameters of JSON data that can be written, for a service with the given separator in its filter keys. -/
def Operation.Plain (separator : String) : Operation → Prop
  | .getList p => p.Plain separator
  | .getManyReference p => p.toListParameters.Plain separator ∧ ∀ id ∈ p.id, id.toValue.fits
  | .getOne id | .delete id => id.Plain
  | .getMany ids | .deleteMany ids => ∀ id ∈ ids, id.Plain
  | .create data => Body data
  | .update id data => id.Plain ∧ Body data
  | .updateMany ids data => (∀ id ∈ ids, id.Plain) ∧ Body data

theorem Operation.Body.sublist {data kept : Fields Value} (hdata : Body data) (hkept : kept.Sublist data) :
    Body kept := by
  refine ⟨fun field hfield => hdata.values field (hkept.subset hfield), ?_⟩
  have hdepth := hdata.depth
  rw [Value.nesting] at hdepth ⊢
  refine Nat.le_trans (Nat.succ_le_succ ?_) hdepth
  rw [Value.fieldsNesting_le_iff]
  exact fun field hfield => (Value.fieldsNesting_le_iff data _).mp Nat.le.refl field (hkept.subset hfield)

section

variable {d : Dialect} {key : PrimaryKey} {resource : String}

end

section

variable {g : Gateway} {resource : String}

theorem rowsUrl_of_matching {ids : List Identifier} {fields : Fields (List Glyph)} {query : String}
    (hmatch : g.settings.dialect.matching (g.primaryKey resource) (ids.map Identifier.toValue) resource =
      .ok fields) (hquery : encode (ofTexts fields) = .ok query) :
    g.rowsUrl resource ids = .ok (g.queryUrl resource query) := by
  rw [Gateway.rowsUrl, hmatch]
  exact Sequence.bind_eq_ok_iff.mpr ⟨fields, rfl, Sequence.bind_eq_ok_iff.mpr ⟨query, hquery, rfl⟩⟩

theorem write_body {data : Fields Value} (hdata : Operation.Body data) :
    ∃ body, Json.write Json.spaced (.map data) = .ok body := by
  rw [write_of_fields hdata.values, if_pos hdata.depth]
  exact ⟨_, rfl⟩

/-- The body of a change to one row is that of a change to several. -/
theorem changeBody_eq (g : Gateway) (resource : String) (data : Fields Value) :
    g.changeBody resource data = .ok (Record.withoutId data (g.primaryKey resource) g.settings.idField) := by
  have hkeys := Record.keyFields_map (g.primaryKey resource) data
  rw [Gateway.changeBody, hkeys]
  exact congrArg Except.ok (Record.merge_keyFields hkeys g.settings.idField)

theorem write_withoutId {data : Fields Value} (hdata : Operation.Body data) (key : PrimaryKey) (idField : String) :
    ∃ body, Json.write Json.spaced (.map (Record.withoutId data key idField)) = .ok body :=
  write_body (hdata.sublist (Record.withoutId_sublist data key idField))

/-- A change to the rows of a URL sends the caller's data without the generic field. -/
theorem request_of_change {op : Operation} {ids : List Identifier} {data : Fields Value} {url body : String}
    (hids : op.ids? = some ids) (hdata : op.data? = some data) (hurl : g.rowsUrl resource ids = .ok url)
    (hbody : Json.write Json.spaced
      (.map (Record.withoutId data (g.primaryKey resource) g.settings.idField)) = .ok body) :
    ∃ headers, g.request resource op = .ok ⟨"PATCH", url, headers, some body⟩ := by
  cases op <;> simp only [Operation.ids?, Operation.data?, Option.some.injEq, reduceCtorEq] at hids hdata <;>
    subst hids hdata
  case update id =>
    refine ⟨writeOneHeaders, ?_⟩
    simp only [Gateway.request, changeBody_eq, hurl, hbody, bind, Except.bind]
    rfl
  case updateMany =>
    refine ⟨writeManyHeaders, ?_⟩
    simp only [Gateway.request, hurl, hbody, bind, Except.bind]
    rfl

theorem request_of_creation_failure {data : Fields Value} {failure : Failure}
    (hbody : Json.write Json.spaced (.map data) = .error failure) :
    g.request resource (.create data) = .error failure := by
  simp only [Gateway.request, hbody, bind, Except.bind]

/-- A change whose data has no JSON text is not sent, whatever rows it is for. -/
theorem request_of_body_failure {op : Operation} {ids : List Identifier} {data : Fields Value} {url : String}
    {failure : Failure} (hids : op.ids? = some ids) (hdata : op.data? = some data)
    (hurl : g.rowsUrl resource ids = .ok url) (hbody : Json.write Json.spaced
      (.map (Record.withoutId data (g.primaryKey resource) g.settings.idField)) = .error failure) :
    g.request resource op = .error failure := by
  cases op <;> simp only [Operation.ids?, Operation.data?, Option.some.injEq, reduceCtorEq] at hids hdata <;>
    subst hids hdata
  all_goals simp only [Gateway.request, changeBody_eq, hurl, hbody, bind, Except.bind]

theorem request_of_url {op : Operation} {ids : List Identifier} {url : String} (hids : op.ids? = some ids)
    (hdata : ∀ data ∈ op.data?, Operation.Body data) (hurl : g.rowsUrl resource ids = .ok url) :
    ∃ request, g.request resource op = .ok request := by
  cases hwritten : op.data? with
  | some data =>
    obtain ⟨body, hbody⟩ := write_withoutId (hdata data hwritten) (g.primaryKey resource) g.settings.idField
    obtain ⟨headers, hrequest⟩ := request_of_change hids hwritten hurl hbody
    exact ⟨_, hrequest⟩
  | none =>
    cases op <;> simp only [Operation.ids?, Operation.data?, Option.some.injEq, reduceCtorEq] at hids hwritten <;>
      subst hids <;> simp only [Gateway.request, hurl]
    all_goals exact ⟨_, rfl⟩

theorem url_of_request {op : Operation} {ids : List Identifier} {request : Request}
    (hids : op.ids? = some ids) (hrequest : g.request resource op = .ok request) :
    g.rowsUrl resource ids = .ok request.url := by
  cases op <;> simp only [Operation.ids?, Option.some.injEq, reduceCtorEq] at hids <;> subst hids
  case update id data =>
    obtain ⟨fields, -, hrest⟩ := Sequence.bind_eq_ok_iff.mp hrequest
    obtain ⟨url, hurl, hrest⟩ := Sequence.bind_eq_ok_iff.mp hrest
    obtain ⟨body, -, hbody⟩ := Sequence.bind_eq_ok_iff.mp hrest
    cases hbody
    exact hurl
  case updateMany data =>
    obtain ⟨url, hurl, hrest⟩ := Sequence.bind_eq_ok_iff.mp hrequest
    obtain ⟨body, -, hbody⟩ := Sequence.bind_eq_ok_iff.mp hrest
    cases hbody
    exact hurl
  all_goals
    obtain ⟨url, hurl, hsent⟩ := Sequence.bind_eq_ok_iff.mp hrequest
    cases hsent
    exact hurl

theorem listRequest_of_listingOf {p : ListParameters} {target : Option String} {id? : Option Identifier}
    {limited : Parameters} {query : String} (hlimited : g.settings.dialect.listingOf (g.primaryKey resource) target
      (id?.elim .null Identifier.toValue) ⟨p.pagination, p.sort, .map p.filter⟩ = .ok limited)
    (hquery : encode limited = .ok query) :
    g.listRequest resource p target id? = .ok ⟨"GET", g.queryUrl resource query, listHeaders, none⟩ := by
  rw [Gateway.listRequest, hlimited]
  exact Sequence.bind_eq_ok_iff.mpr ⟨limited, rfl, Sequence.bind_eq_ok_iff.mpr ⟨query, hquery, rfl⟩⟩

theorem listRequest_of_unsent {p : ListParameters} {target : Option String} {id? : Option Identifier}
    {limited : Parameters} {failure : Failure} (hlimited : g.settings.dialect.listingOf (g.primaryKey resource) target
      (id?.elim .null Identifier.toValue) ⟨p.pagination, p.sort, .map p.filter⟩ = .ok limited)
    (hunsent : encode limited = .error failure) : g.listRequest resource p target id? = .error failure := by
  rw [Gateway.listRequest, hlimited]
  exact Sequence.bind_eq_error_iff.mpr (.inr ⟨limited, rfl, Sequence.bind_eq_error_iff.mpr (.inl hunsent)⟩)

theorem whole_reference (id? : Option Identifier) : Whole (id?.elim .null Identifier.toValue).scalar := by
  cases id? with
  | none => exact whole_glyphsOf "null"
  | some id =>
    rw [Option.elim_some, scalar_identifier]
    exact whole_glyphsOf _

/-- Data in which lists lie 1200 deep. -/
def deepFields : Fields Value := [("c", Value.nestedLists 1199)]

theorem data_deepFields : ∀ field ∈ deepFields, Data true field.2 := by simpa [deepFields] using data_nestedLists 1199

theorem write_deepFields : Json.write Json.spaced (.map deepFields) = .error .tooDeep :=
  write_around_nestedLists spaced "c" (by decide)

theorem Operation.Plain.data {separator : String} {op : Operation} (hplain : op.Plain separator) :
    ∀ data ∈ op.data?, Body data := by
  intro data hdata
  cases op <;> simp only [Operation.data?, Option.mem_def, Option.some.injEq, reduceCtorEq] at hdata <;>
    subst hdata
  case create => exact hplain
  case update id => exact hplain.2
  case updateMany ids => exact hplain.2

theorem Operation.Plain.ids {separator : String} {op : Operation} (hplain : op.Plain separator) {ids : List Identifier}
    (hids : op.ids? = some ids) :
    ∀ id ∈ ids, id.Plain := by
  cases op <;> simp only [Operation.ids?, Option.some.injEq, reduceCtorEq] at hids <;> subst hids
  case getOne id => exact List.forall_mem_singleton.mpr hplain
  case getMany => exact hplain
  case update id data => exact List.forall_mem_singleton.mpr hplain.1
  case updateMany data => exact hplain.1
  case delete id => exact List.forall_mem_singleton.mpr hplain
  case deleteMany => exact hplain

theorem perform_of_accepted {name : Operation.Name} {parameters : Value} {op : Operation}
    (hop : Operation.ofValue name parameters = .accepted op) (client : Client) (resource : String) :
    g.perform client resource name parameters = g.run client resource op := by
  rw [Gateway.perform, hop]
  rfl

/-- An operation with a request sends it, and makes its answer of what comes back. -/
theorem perform_of_request {name : Operation.Name} {parameters : Value} {op : Operation} {request : Request}
    (hop : Operation.ofValue name parameters = .accepted op) (hrequest : g.request resource op = .ok request)
    (client : Client) :
    g.perform client resource name parameters = ⟨some request, client request >>= g.answer resource op⟩ := by
  rw [perform_of_accepted hop, Gateway.run, hrequest]

/-- What comes of an operation that the client answers. -/
theorem outcome_of_response {name : Operation.Name} {parameters : Value} {op : Operation} {request : Request}
    {client : Client} {response : Response} (hop : Operation.ofValue name parameters = .accepted op)
    (hrequest : g.request resource op = .ok request) (hresponse : client request = .ok response) :
    (g.perform client resource name parameters).outcome = g.answer resource op response := by
  rw [perform_of_request hop hrequest]
  exact congrArg (· >>= g.answer resource op) hresponse

/-- An operation fails before anything is sent, whatever the client, or sends a request that the client has no
part in. -/
theorem perform_cases (g : Gateway) (resource : String) (name : Operation.Name) (parameters : Value) :
    (∃ failure, ∀ client : Client, g.perform client resource name parameters = ⟨none, .error failure⟩) ∨
      ∃ op request, Operation.ofValue name parameters = .accepted op ∧ g.request resource op = .ok request ∧
        ∀ client : Client, g.perform client resource name parameters =
          ⟨some request, client request >>= g.answer resource op⟩ := by
  cases hop : Operation.ofValue name parameters with
  | refused issues =>
    left
    refine ⟨.refused issues, fun client => ?_⟩
    rw [Gateway.perform, hop]
    rfl
  | accepted op =>
    cases hrequest : g.request resource op with
    | error failure =>
      left
      refine ⟨failure, fun client => ?_⟩
      rw [perform_of_accepted hop, Gateway.run, hrequest]
    | ok request =>
      right
      exact ⟨op, request, rfl, hrequest, fun client => perform_of_request hop hrequest client⟩

/-- Whatever was sent, the outcome of an operation is made of what came back. -/
theorem outcome_of_sent {name : Operation.Name} {parameters : Value} {op : Operation} {client : Client}
    {request : Request} (hop : Operation.ofValue name parameters = .accepted op)
    (hsent : (g.perform client resource name parameters).sent = some request) :
    (g.perform client resource name parameters).outcome = client request >>= g.answer resource op := by
  rw [perform_of_accepted hop, Gateway.run] at hsent ⊢
  cases hplanned : g.request resource op with
  | error failure =>
    rw [hplanned] at hsent
    cases hsent
  | ok planned =>
    rw [hplanned] at hsent
    cases hsent
    rfl

end

end TableGateway
