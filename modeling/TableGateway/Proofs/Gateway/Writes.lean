import TableGateway.Proofs.Check.Checked
import TableGateway.Proofs.Form
import TableGateway.Proofs.Gateway.Request

/-!
No change without a condition. In whatever order calls are made, and whatever the service answers to them, every
request that changes or deletes rows carries a query, and the query says exactly what the match for the
identifiers of its call says: one condition for each identifier and each field of the key. Identifiers for
which there is no such match are never sent.
-/

namespace TableGateway

open TableGateway.Check TableGateway.Query TableGateway.Text
open TableGateway.Operation (Identifier)

/-- A service: it answers or refuses a request, and is in another state afterwards. -/
abbrev Service (σ : Type) := σ → Request → Except Failure Response × σ

/-- A call of an operation. -/
structure Call where
  resource : String
  name : Operation.Name
  parameters : Value

/-- What one call comes to, and the state in which it leaves the service. -/
def Gateway.call {σ : Type} (g : Gateway) (service : Service σ) (state : σ) (call : Call) : Exchange × σ :=
  let exchange := g.perform (fun request => (service state request).1) call.resource call.name call.parameters
  (exchange, exchange.sent.elim state fun request => (service state request).2)

/-- Calls made one after the other, each with what it came to. -/
def Gateway.session {σ : Type} (g : Gateway) (service : Service σ) (state : σ) : List Call → List (Call × Exchange)
  | [] => []
  | call :: rest => (call, (g.call service state call).1) :: g.session service (g.call service state call).2 rest

/-- The parameters limit a request to the rows with the given identifiers. -/
structure Narrows (settings : Settings) (resource : String) (ids : List Identifier) (fields : Fields String) :
    Prop where
  matched : settings.dialect.matching (settings.primaryKey resource) (ids.map Identifier.toValue) resource =
    .ok (fields.mapValues glyphsOf)
  ids_ne_nil : ids ≠ []
  ne_nil : fields ≠ []
  /-- Outside procedures one parameter compares all key fields of all identifiers. -/
  table : settings.dialect.isProcedure resource = false → fields.length = 1 ∧
    ∃ rows, List.Forall₂ (fun id row => Key.decode id.toValue (settings.primaryKey resource) = .ok row) ids rows ∧
      Addresses false (settings.primaryKey resource) rows (fields.mapValues glyphsOf)
  /-- A procedure has an argument for each field of the key. -/
  procedure : settings.dialect.isProcedure resource → ids.length = 1 ∧ fields.names.Nodup ∧
    ∀ name, name ∈ fields.names ↔ name ∈ settings.primaryKey resource

section

variable {settings : Settings} {resource : String}

theorem narrows_of_matching {ids : List Identifier} {fields : Fields String}
    (hmatch : settings.dialect.matching (settings.primaryKey resource) (ids.map Identifier.toValue) resource =
      .ok (fields.mapValues glyphsOf)) :
    Narrows settings resource ids fields := by
  have hkey := key_ne_nil_of_matching hmatch
  cases hprocedure : settings.dialect.isProcedure resource with
  | false =>
    obtain ⟨hids, -⟩ := decode_of_matching hkey hprocedure hmatch
    obtain ⟨rows, hrows, haddress⟩ := addresses_of_matching hkey hprocedure hmatch
    have hlength : fields.length = 1 := by simpa [Fields.mapValues] using haddress.length_eq_one
    refine ⟨hmatch, hids, ?_, fun _ => ⟨hlength, rows, hrows, haddress⟩, by simp [hprocedure]⟩
    rintro rfl
    cases hlength
  | true =>
    obtain ⟨hone, hnodup, hnames⟩ := arguments_of_matching hkey hprocedure hmatch
    rw [Fields.names_mapValues] at hnodup hnames
    refine ⟨hmatch, ?_, ?_, by simp [hprocedure], fun _ => ⟨hone, hnodup, hnames⟩⟩
    · rintro rfl
      cases hone
    · rintro rfl
      obtain ⟨name, rest, heq⟩ := List.exists_cons_of_ne_nil hkey
      have hmem : name ∈ Fields.names ([] : Fields String) := (hnames name).mpr (by simp [heq])
      exact absurd hmem (by simp [Fields.names])

theorem matching_of_rowsUrl {g : Gateway} {ids : List Identifier} {url : String}
    (hurl : g.rowsUrl resource ids = .ok url) :
    ∃ fields : Fields String,
      g.settings.dialect.matching (g.primaryKey resource) (ids.map Identifier.toValue) resource =
        .ok (fields.mapValues glyphsOf) ∧ url = g.queryUrl resource (Form.encode fields) := by
  obtain ⟨matched, hmatched, hrest⟩ := Sequence.bind_eq_ok_iff.mp hurl
  obtain ⟨query, hquery, hsame⟩ := Sequence.bind_eq_ok_iff.mp hrest
  cases hsame
  obtain ⟨fields, rfl, rfl⟩ := encode_ofTexts_eq_ok_iff.mp hquery
  exact ⟨fields, hmatched, rfl⟩

/-- The operations that change or delete rows which are there already. -/
def Operation.Name.changesRows (name : Operation.Name) : Prop :=
  name ∈ [.update, .updateMany, .delete, .deleteMany]

theorem ids_of_name {name : Operation.Name} {parameters : Value} {op : Operation}
    (hop : Operation.ofValue name parameters = .accepted op) (hname : name.changesRows) :
    ∃ ids, op.ids? = some ids := by
  simp only [Operation.Name.changesRows, List.mem_cons, List.not_mem_nil, or_false] at hname
  rcases hname with rfl | rfl | rfl | rfl <;> obtain ⟨checked, -, rfl⟩ := Checked.map_eq_accepted_iff.mp hop <;>
    exact ⟨_, rfl⟩

theorem method_of_listRequest {g : Gateway} {p : Operation.ListParameters} {target : Option String}
    {id? : Option Identifier} {request : Request} (hrequest : g.listRequest resource p target id? = .ok request) :
    request.method = "GET" := by
  obtain ⟨fields, -, hrest⟩ := Sequence.bind_eq_ok_iff.mp hrequest
  obtain ⟨query, -, hsent⟩ := Sequence.bind_eq_ok_iff.mp hrest
  cases hsent
  rfl

theorem ids_of_method {g : Gateway} {op : Operation} {request : Request}
    (hrequest : g.request resource op = .ok request) (hmethod : request.method ∈ ["PATCH", "DELETE"]) :
    ∃ ids, op.ids? = some ids := by
  cases op
  case getList p =>
    have hlisted : g.listRequest resource p none none = .ok request := hrequest
    simp [method_of_listRequest hlisted] at hmethod
  case getManyReference p =>
    have hlisted : g.listRequest resource p.toListParameters p.target p.id = .ok request := hrequest
    simp [method_of_listRequest hlisted] at hmethod
  case create data =>
    obtain ⟨body, -, hsent⟩ := Sequence.bind_eq_ok_iff.mp hrequest
    cases hsent
    simp at hmethod
  all_goals exact ⟨_, rfl⟩

/-- One call sends no change without a condition. -/
theorem narrows_of_sent {client : Client} {name : Operation.Name} {parameters : Value}
    {request : Request}
    (hsent : (Gateway.perform ⟨settings⟩ client resource name parameters).sent = some request)
    (hchange : request.method ∈ ["PATCH", "DELETE"] ∨ name.changesRows) :
    ∃ op ids query fields, Operation.ofValue name parameters = .accepted op ∧ op.ids? = some ids ∧
      request.url = settings.apiUrl ++ "/" ++ resource ++ "?" ++ query ∧ query ≠ "" ∧
      Form.decode? query = some fields ∧ Narrows settings resource ids fields := by
  rw [Gateway.perform] at hsent
  cases hop : (Operation.ofValue name parameters).toExcept with
  | error failure =>
    rw [hop] at hsent
    cases hsent
  | ok op =>
    rw [hop] at hsent
    rw [Checked.toExcept_eq_ok_iff] at hop
    change (Gateway.run ⟨settings⟩ client resource op).sent = some request at hsent
    rw [Gateway.run] at hsent
    cases hrequest : Gateway.request ⟨settings⟩ resource op with
    | error failure =>
      rw [hrequest] at hsent
      cases hsent
    | ok planned =>
      rw [hrequest] at hsent
      cases hsent
      have hids : ∃ ids, op.ids? = some ids := by
        rcases hchange with hmethod | hname
        · exact ids_of_method hrequest hmethod
        · exact ids_of_name hop hname
      obtain ⟨ids, hids⟩ := hids
      obtain ⟨fields, hmatch, hurl⟩ := matching_of_rowsUrl (url_of_request hids hrequest)
      have hnarrows := narrows_of_matching hmatch
      exact ⟨op, ids, Form.encode fields, fields, hop, hids, hurl, Form.encode_ne_empty hnarrows.ne_nil,
        Form.decode?_encode fields, hnarrows⟩

/-- In no session, whatever the settings are and the service does, is a change or a deletion sent without a condition
for every identifier of its call. -/
theorem session_narrows (settings : Settings) {σ : Type} (service : Service σ) (state : σ) (calls : List Call) :
    ∀ entry ∈ Gateway.session ⟨settings⟩ service state calls, ∀ request, entry.2.sent = some request →
      request.method ∈ ["PATCH", "DELETE"] ∨ entry.1.name.changesRows →
      ∃ op ids query fields, Operation.ofValue entry.1.name entry.1.parameters = .accepted op ∧
        op.ids? = some ids ∧ request.url = settings.apiUrl ++ "/" ++ entry.1.resource ++ "?" ++ query ∧
        query ≠ "" ∧ Form.decode? query = some fields ∧ Narrows settings entry.1.resource ids fields := by
  -- The service may be in any state by the time of a call: what narrows a request comes from the call alone.
  induction calls generalizing state with
  | nil => simp [Gateway.session]
  | cons call rest ih =>
    intro entry hentry request hsent hchange
    rcases List.mem_cons.mp hentry with rfl | hrest
    · exact narrows_of_sent hsent hchange
    · exact ih _ entry hrest request hsent hchange

end

/-- Deletions of nothing, of an identifier that does not spell a key, and of two rows. -/
def deletions : List Call :=
  [⟨"t", .deleteMany, .map [("ids", .list [])]⟩, ⟨"t", .delete, .map [("id", .text "[1]")]⟩,
    ⟨"t", .deleteMany, .map [("ids", .list [.text "[1,2]", .text "[3,null]"])]⟩]

/-- A service that has nothing to answer. -/
def silent : Service Unit := fun _ _ => (.ok ⟨204, [], .null⟩, ())

/-- Of the three deletions only the last one is sent, with its conditions. -/
theorem session_narrows_deletions :
    Gateway.ofValue Settings.tableConfig = .ok ⟨Settings.table⟩ ∧
      (Gateway.session ⟨Settings.table⟩ silent () deletions).map (·.2.sent) =
        [none, none, some ⟨"DELETE",
          "http://host/t?or=%28and%28a.eq.1%2Cb.eq.2%29%2Cand%28a.eq.3%2Cb.eq.null%29%29", writeManyHeaders, none⟩] ∧
      ∀ entry ∈ Gateway.session ⟨Settings.table⟩ silent () deletions, ∀ request, entry.2.sent = some request →
        ∃ ids query fields, request.url = "http://host/" ++ entry.1.resource ++ "?" ++ query ∧ query ≠ "" ∧
          Form.decode? query = some fields ∧ Narrows Settings.table entry.1.resource ids fields := by
  have hcalls : ∀ entry ∈ Gateway.session ⟨Settings.table⟩ silent () deletions, entry.1.name.changesRows := by
    have hnames : (Gateway.session ⟨Settings.table⟩ silent () deletions).map (·.1.name) =
        [.deleteMany, .delete, .deleteMany] := rfl
    intro entry hentry
    have hname : entry.1.name ∈ [Operation.Name.deleteMany, .delete, .deleteMany] := by
      rw [← hnames]
      exact List.mem_map_of_mem hentry
    simp only [List.mem_cons, List.not_mem_nil, or_false] at hname
    rcases hname with hname | hname | hname <;> simp [Operation.Name.changesRows, hname]
  refine ⟨rfl, by decide +kernel, fun entry hentry request hsent => ?_⟩
  obtain ⟨op, ids, query, fields, -, -, hurl, hquery, hdecode, hnarrows⟩ :=
    session_narrows Settings.table silent () deletions entry hentry request hsent (.inr (hcalls entry hentry))
  exact ⟨ids, query, fields, hurl, hquery, hdecode, hnarrows⟩

end TableGateway
