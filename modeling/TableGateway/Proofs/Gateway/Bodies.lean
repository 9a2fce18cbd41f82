import TableGateway.Proofs.Gateway.Request
import TableGateway.Proofs.Json.Ascii
import TableGateway.Proofs.Query.Lossless

/-!
What is sent for a record. The body of a creation is read back as the caller's data. The bodies of the two kinds of
changes are one text, which is read back as the caller's data without the generic field, or with it when it is a
key field; key fields that the data lack are never made up.
-/

namespace TableGateway

open TableGateway.Json TableGateway.Number
open TableGateway.Operation (Identifier)

/-- The text is printable and is read back as the given fields. -/
structure Spells (body : String) (fields : Fields Value) : Prop where
  printable : ∀ c ∈ body.toList, isPrintableAscii c
  read : Json.read body = .ok (.map fields)

theorem exists_spells {fields : Fields Value} (hdata : Data false (.map fields))
    (hdepth : Value.nesting (.map fields) ≤ depthLimit) :
    ∃ body, Json.write spaced (.map fields) = .ok body ∧ Spells body fields := by
  obtain ⟨body, hwrite, hprintable, hread⟩ := write_spaced hdata hdepth
  exact ⟨body, hwrite, hprintable, hread⟩

section

variable {g : Gateway} {resource : String} {data : Fields Value} {name : Operation.Name} {parameters : Value}
  {op : Operation} {body : String}

/-- A creation sends the text of its data. -/
theorem sent_of_creation (g : Gateway) (resource : String)
    (hop : Operation.ofValue name parameters = .accepted (.create data))
    (hbody : Json.write spaced (.map data) = .ok body) :
    ∃ request : Request, request.body = some body ∧
      ∀ client, (g.perform client resource name parameters).sent = some request := by
  have hrequest : g.request resource (.create data) =
      .ok ⟨"POST", g.resourceUrl resource, writeOneHeaders, some body⟩ := by
    simp only [Gateway.request, hbody, bind, Except.bind]
    rfl
  refine ⟨⟨"POST", g.resourceUrl resource, writeOneHeaders, some body⟩, rfl, fun client => ?_⟩
  rw [perform_of_request hop hrequest]

/-- A change of rows that there is a URL for sends the text of its data without the generic field. -/
theorem sent_of_change {ids : List Identifier} {url : String}
    (hop : Operation.ofValue name parameters = .accepted op) (hids : op.ids? = some ids)
    (hdata : op.data? = some data)
    (hurl : g.rowsUrl resource ids = .ok url)
    (hbody : Json.write spaced
      (.map (Record.withoutId data (g.primaryKey resource) g.settings.idField)) = .ok body) :
    ∃ request : Request, request.body = some body ∧
      ∀ client, (g.perform client resource name parameters).sent = some request := by
  obtain ⟨headers, hrequest⟩ := request_of_change hids hdata hurl hbody
  refine ⟨⟨"PATCH", url, headers, some body⟩, rfl, fun client => ?_⟩
  rw [perform_of_request hop hrequest]

end

/-- Bodies are faithful. A creation sends a text that is read back as its data. There is one text that every change
with these data sends, to a single row or to several: it is read back as the data without the generic field, unless
that is a key field, and it has no key field that the data lack. -/
theorem bodies_read_back (settings : Settings) (resource : String) {data : Fields Value}
    (hdata : Data false (.map data)) (hdepth : Value.nesting (.map data) ≤ depthLimit) :
    (∃ body, Spells body data ∧
      ∀ parameters, Operation.ofValue .create parameters = .accepted (.create data) →
        ∃ request : Request, request.body = some body ∧
          ∀ client : Client, (Gateway.perform ⟨settings⟩ client resource .create parameters).sent = some request) ∧
    ∃ body kept, Spells body kept ∧
      kept = (if settings.idField ∈ settings.primaryKey resource then data else data.erase settings.idField) ∧
      (∀ name ∈ settings.primaryKey resource, name ∉ data.names → name ∉ kept.names) ∧
      ∀ name parameters op ids, Operation.ofValue name parameters = .accepted op →
        op.ids? = some ids → op.data? = some data →
          (∃ url, Gateway.rowsUrl ⟨settings⟩ resource ids = .ok url) →
            ∃ request : Request, request.body = some body ∧
              ∀ client : Client, (Gateway.perform ⟨settings⟩ client resource name parameters).sent = some request := by
  constructor
  · obtain ⟨body, hbody, hspells⟩ := exists_spells hdata hdepth
    exact ⟨body, hspells, fun parameters hop => sent_of_creation ⟨settings⟩ resource hop hbody⟩
  · have hsublist := Record.withoutId_sublist data (settings.primaryKey resource) settings.idField
    obtain ⟨hkept, hle⟩ := data_of_sublist hsublist hdata
    obtain ⟨body, hbody, hspells⟩ := exists_spells hkept (Nat.le_trans hle hdepth)
    refine ⟨body, _, hspells, rfl, ?_, ?_⟩
    · intro name _ habsent hname
      exact habsent ((hsublist.map _).subset hname)
    · rintro name parameters op ids hop hids hdata ⟨url, hurl⟩
      exact sent_of_change hop hids hdata hurl hbody

/-- Data with the generic field, with one of two key fields, and with characters that a body has to escape. -/
def draft : Fields Value :=
  [("b", .text "é\"😀"), ("id", .int 5), ("tags", .map [("\n", .list [.null, .bool true])])]

theorem bodies_read_back_draft :
    Data false (.map draft) ∧ Value.nesting (.map draft) ≤ depthLimit ∧
      (∃ body, Spells body draft ∧ ∃ request : Request, request.body = some body ∧ ∀ client : Client,
        (Gateway.perform ⟨Settings.table⟩ client "t" .create (.map [("data", .map draft)])).sent = some request) ∧
      ∃ body, Spells body [("b", .text "é\"😀"), ("tags", .map [("\n", .list [.null, .bool true])])] ∧
        ∃ one several : Request, one.body = some body ∧ several.body = some body ∧ ∀ client : Client,
          (Gateway.perform ⟨Settings.table⟩ client "t" .update
            (.map [("id", .text "[1,2]"), ("data", .map draft)])).sent = some one ∧
          (Gateway.perform ⟨Settings.table⟩ client "t" .updateMany
            (.map [("ids", .list [.text "[1,2]", .text "[3,4]"]), ("data", .map draft)])).sent = some several := by
  have hdata : Data false (.map draft) := by
    have hlist : Data false (.list [.null, .bool true]) := by
      apply Data.list
      simp only [List.forall_mem_cons, List.not_mem_nil, false_implies, implies_true, and_true]
      exact ⟨.null, .bool true⟩
    have htags : Data false (.map [("\n", .list [.null, .bool true])]) := .map (by decide) (by simpa using hlist)
    have hfive : withinDigitLimit 5 := withinDigitLimit_of_lt_ten (by decide)
    refine .map (by decide) ?_
    simp only [draft, List.forall_mem_cons, List.not_mem_nil, false_implies, implies_true, and_true]
    exact ⟨.text _, .int hfive, htags⟩
  have hdepth : Value.nesting (.map draft) ≤ depthLimit := by decide
  obtain ⟨⟨created, hcreated, hcreation⟩, body, kept, hspells, rfl, -, hchange⟩ :=
    bodies_read_back Settings.table "t" hdata hdepth
  have hone : (Gateway.rowsUrl ⟨Settings.table⟩ "t" [.text "[1,2]"]).toOption =
      some "http://host/t?and=%28a.eq.1%2Cb.eq.2%29" := by decide +kernel
  have hseveral : (Gateway.rowsUrl ⟨Settings.table⟩ "t" [.text "[1,2]", .text "[3,4]"]).toOption =
      some "http://host/t?or=%28and%28a.eq.1%2Cb.eq.2%29%2Cand%28a.eq.3%2Cb.eq.4%29%29" := by decide +kernel
  obtain ⟨request, hrequest, hsent⟩ := hcreation (.map [("data", .map draft)]) rfl
  obtain ⟨one, hone_body, hone_sent⟩ := hchange .update (.map [("id", .text "[1,2]"), ("data", .map draft)]) _
    [.text "[1,2]"] rfl rfl rfl ⟨_, Sequence.eq_ok_of_toOption hone⟩
  obtain ⟨several, hseveral_body, hseveral_sent⟩ := hchange .updateMany
    (.map [("ids", .list [.text "[1,2]", .text "[3,4]"]), ("data", .map draft)]) _
    [.text "[1,2]", .text "[3,4]"] rfl rfl rfl ⟨_, Sequence.eq_ok_of_toOption hseveral⟩
  exact ⟨hdata, hdepth, ⟨created, hcreated, request, hrequest, hsent⟩, body, hspells, one, several, hone_body,
    hseveral_body, fun client => ⟨hone_sent client, hseveral_sent client⟩⟩

/-- Not every data has a body: lists that lie 1200 deep in a field of it are not sent. -/
theorem deep_body_not_sent :
    Data false Query.deepParameter ∧
      ∀ client : Client, Gateway.perform ⟨Settings.table⟩ client "t" .create
        (.map [("data", Query.deepParameter)]) = ⟨none, .error .tooDeep⟩ := by
  have hop : Operation.ofValue .create (.map [("data", Query.deepParameter)]) =
      .accepted (.create [("a", Value.nestedLists 1199)]) := rfl
  have hrequest : Gateway.request ⟨Settings.table⟩ "t" (.create [("a", Value.nestedLists 1199)]) = .error .tooDeep :=
    request_of_creation_failure (write_around_nestedLists spaced "a" (by decide))
  refine ⟨Query.data_deepParameter, fun client => ?_⟩
  rw [perform_of_accepted hop, Gateway.run, hrequest]

end TableGateway
