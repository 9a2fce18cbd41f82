import TableGateway.Proofs.Gateway.Addressing
import TableGateway.Proofs.Gateway.Bodies
import TableGateway.Proofs.Key.Identity

/-!
Records that are read, changed and written back. What a caller gets for a row has one field that the row may lack,
the generic one. A change to the record under its identifier leaves that field out again and says of the key fields
what the row said, so that the body and the conditions of the query are about the same row.
-/

namespace TableGateway

open TableGateway.Json TableGateway.Query TableGateway.Text
open TableGateway.Operation (Identifier)

/-- A request that writes the given fields to the row with their key values. -/
structure Request.Saves (request : Request) (settings : Settings) (resource : String) (fields : Fields Value) :
    Prop where
  method : request.method = "PATCH"
  body : ∃ body, request.body = some body ∧ Json.read body = .ok (.map fields)
  url : ∃ (query : String) (conditions : Fields String),
    request.url = settings.apiUrl ++ "/" ++ resource ++ "?" ++ query ∧ Form.decode? query = some conditions ∧
    Addresses (settings.dialect.isProcedure resource) (settings.primaryKey resource)
      [keyScalars (settings.primaryKey resource) fields] (conditions.mapValues glyphsOf)

namespace Record

variable {key : PrimaryKey} {idField : String}

/-- A generic field that is no key field, or the only one, is left out of the body unless it is the key. -/
theorem withoutId_eq_ite (hid : idField ∉ key ∨ key = [idField]) (data : Fields Value) :
    withoutId data key idField = if key = [idField] then data else data.erase idField := by
  rw [withoutId]
  rcases hid with hfree | rfl
  · have hother : key ≠ [idField] := by
      rintro rfl
      exact hfree List.mem_cons_self
    rw [if_neg hfree, if_neg hother]
  · rw [if_pos List.mem_cons_self, if_pos rfl]

/-- A copy has the key fields of its record. -/
theorem get?_copy_of_mem (hid : idField ∉ key ∨ key = [idField]) {row copy : Fields Value}
    (hcopy : withId (.map row) key idField = .ok (.map copy))
    (hothers : ∀ name, name ≠ idField → copy.get? name = row.get? name) {name : String} (hname : name ∈ key) :
    copy.get? name = row.get? name := by
  rcases hid with hfree | rfl
  · apply hothers
    rintro rfl
    exact hfree hname
  · rw [withId_map, if_pos rfl] at hcopy
    cases hcopy
    rfl

end Record

theorem keyScalars_congr {key : PrimaryKey} {fields row : Fields Value}
    (hsame : ∀ name ∈ key, fields.get? name = row.get? name) : keyScalars key fields = keyScalars key row := by
  apply List.map_congr_left
  intro name hname
  rw [Key.fieldOrNull, Key.fieldOrNull, hsame name hname]

section

variable {settings : Settings} {resource : String}

/-- A change under an identifier of the key values that are in its data saves the data. -/
theorem saves_of_decode (hnonempty : settings.primaryKey resource ≠ []) (hkey : (settings.primaryKey resource).Nodup)
    {id : Identifier} {data kept : Fields Value} (hdata : Data false (.map data))
    (hdepth : Value.nesting (.map data) ≤ depthLimit)
    (hkept : Record.withoutId data (settings.primaryKey resource) settings.idField = kept)
    (hdecode : Key.decode id.toValue (settings.primaryKey resource) =
      .ok (keyScalars (settings.primaryKey resource) kept))
    (hwhole : ∀ value ∈ keyScalars (settings.primaryKey resource) kept, Whole value) :
    ∃ request : Request, Gateway.request ⟨settings⟩ resource (.update id data) = .ok request ∧
      request.Saves settings resource kept := by
  subst hkept
  obtain ⟨hkept_data, hle⟩ := data_of_sublist
    (Record.withoutId_sublist data (settings.primaryKey resource) settings.idField) hdata
  obtain ⟨body, hbody, hspells⟩ := exists_spells hkept_data (Nat.le_trans hle hdepth)
  have hdecodes : List.Forall₂ (fun (id : Identifier) row => Key.decode id.toValue (settings.primaryKey resource) =
      .ok row) [id] [keyScalars (settings.primaryKey resource)
        (Record.withoutId data (settings.primaryKey resource) settings.idField)] :=
    List.forall₂_cons.mpr ⟨hdecode, .nil⟩
  obtain ⟨fields, hmatch, haddress⟩ := matching_of_decode hnonempty (fun _ => hkey) (by simp) (.inl rfl) hdecodes
  obtain ⟨query, hquery⟩ := exists_encode_ofTexts (haddress.whole (List.forall_mem_singleton.mpr hwhole))
  obtain ⟨texts, rfl, rfl⟩ := encode_ofTexts_eq_ok_iff.mp hquery
  have hids : (Operation.update id data).ids? = some [id] := rfl
  have hurl : Gateway.rowsUrl ⟨settings⟩ resource [id] = .ok _ := rowsUrl_of_matching hmatch hquery
  obtain ⟨headers, hrequest⟩ := request_of_change hids rfl hurl hbody
  refine ⟨_, hrequest, rfl, ⟨body, rfl, hspells.read⟩, ?_⟩
  exact ⟨Form.encode texts, texts, rfl, Form.decode?_encode texts, haddress⟩

/-- A row that is answered to `getOne` comes to the caller as its copy. -/
theorem outcome_of_getOne {parameters : Value} {op : Operation} {client : Client} {request : Request}
    {response : Response} {row copy : Fields Value}
    (hcopy : Record.withId (.map row) (settings.primaryKey resource) settings.idField = .ok (.map copy))
    (hop : Operation.ofValue .getOne parameters = .accepted op)
    (hsent : (Gateway.perform ⟨settings⟩ client resource .getOne parameters).sent = some request)
    (hresponse : client request = .ok response) (hbody : response.body = .map row) :
    (Gateway.perform ⟨settings⟩ client resource .getOne parameters).outcome = .ok (.record copy) := by
  have hrecord : Gateway.record ⟨settings⟩ resource response = .ok copy := by
    rw [Gateway.record, hbody]
    exact Sequence.bind_eq_ok_iff.mpr ⟨_, hcopy, rfl⟩
  rw [outcome_of_sent hop hsent, hresponse]
  obtain ⟨id, -, rfl⟩ := Check.Checked.map_eq_accepted_iff.mp hop
  exact congrArg (Answer.record <$> ·) hrecord

end

/-- A record that was read can be written back. Data that have the key fields of the record, and anything in their
other fields, are sent under the identifier of the record as they are but for the generic field. The key fields
arrive with the values of the row, and the request is limited to the row with these values. -/
theorem revision_saves_record {config : Value} {settings : Settings}
    (hgateway : Gateway.ofValue config = .ok ⟨settings⟩) {resource : String}
    (hkey : (settings.primaryKey resource).Nodup)
    (hid : settings.idField ∉ settings.primaryKey resource ∨ settings.primaryKey resource = [settings.idField])
    {row : Fields Value} (hrow : Addressable row (settings.primaryKey resource)) :
    ∃ (record : Fields Value) (id : Value),
      Record.withId (.map row) (settings.primaryKey resource) settings.idField = .ok (.map record) ∧
      record.get? settings.idField = some id ∧
      (∀ parameters op (client : Client) request response,
        Operation.ofValue .getOne parameters = .accepted op →
          (Gateway.perform ⟨settings⟩ client resource .getOne parameters).sent = some request →
            client request = .ok response → response.body = .map row →
              (Gateway.perform ⟨settings⟩ client resource .getOne parameters).outcome = .ok (.record record)) ∧
      ∀ data given : Fields Value, Data false (.map data) → Value.nesting (.map data) ≤ depthLimit →
        (∀ name ∈ settings.primaryKey resource, data.get? name = record.get? name) →
          given.get? "id" = some id → given.get? "data" = some (.map data) →
            ∃ op request kept, Operation.ofValue .update (.map given) = .accepted op ∧
              request.Saves settings resource kept ∧
              kept = (if settings.primaryKey resource = [settings.idField] then data
                else data.erase settings.idField) ∧
              (∀ name ∈ settings.primaryKey resource, kept.get? name = row.get? name) ∧
              ∀ client : Client, Gateway.perform ⟨settings⟩ client resource .update (.map given) =
                ⟨some request, client request >>= Gateway.answer ⟨settings⟩ resource op⟩ := by
  have hnonempty := (Gateway.valid_of_ofValue hgateway).primaryKey_ne_nil resource
  obtain ⟨id, hidentify, hdecode⟩ := identify_decodes hnonempty hrow
  have hpresent : ∀ name ∈ settings.primaryKey resource, name ∈ row.names := fun name hname => hrow.mem_names hname
  obtain ⟨record, hcopy, hfield, hothers⟩ := Record.exists_copy hidentify hpresent settings.idField
  refine ⟨record, id.toValue, hcopy, hfield, ?_, ?_⟩
  · intro parameters op client request response hop hsent hresponse hbody
    exact outcome_of_getOne hcopy hop hsent hresponse hbody
  · intro data given hdata hdepth hsame hgiven_id hgiven_data
    have hkept := Record.withoutId_eq_ite hid data
    generalize hfields : Record.withoutId data (settings.primaryKey resource) settings.idField = kept at hkept
    -- What is left out on the way out and what was added on the way in is the generic field, never a key field
    -- next to others.
    have hvalues : ∀ name ∈ settings.primaryKey resource, kept.get? name = row.get? name := by
      intro name hname
      calc
        kept.get? name = data.get? name := by
          rw [← hfields]
          exact Record.get?_withoutId_of_mem data settings.idField hname
        _ = record.get? name := hsame name hname
        _ = row.get? name := Record.get?_copy_of_mem hid hcopy hothers hname
    have hscalars := keyScalars_congr hvalues
    obtain ⟨request, hrequest, hsaves⟩ :=
      saves_of_decode hnonempty hkey hdata hdepth hfields (hscalars ▸ hdecode) (hscalars ▸ hrow.whole)
    have hop := accepted_of_update hgiven_id hgiven_data
    exact ⟨_, request, kept, hop, hsaves, hkept, hvalues, perform_of_request hop hrequest⟩

theorem hasKey_of_text_null {row : Fields Value} {text : String} (ha : row.get? "a" = some (.text text))
    (hb : row.get? "b" = some .null) : HasKey row ["a", "b"] := by
  intro name hname
  rcases List.mem_pair.mp hname with rfl | rfl
  · exact ⟨_, ha, .text text⟩
  · exact ⟨_, hb, .null rfl⟩

/-- A row with an empty key field and a mark of queries in the other one, without a generic field. -/
def noted (note : String) : Fields Value := [("a", .text "x,y"), ("b", .null), ("note", .text note)]

def notedIdentifier : Value := .text "[\"x,y\",null]"

theorem revision_saves_record_noted :
    Gateway.ofValue Settings.tableConfig = .ok ⟨Settings.table⟩ ∧ ["a", "b"].Nodup ∧ "id" ∉ ["a", "b"] ∧
      Addressable (noted "old") ["a", "b"] ∧
      (Gateway.perform ⟨Settings.table⟩ (fun _ => .ok ⟨200, [], .map (noted "old")⟩) "t" .getOne
        (.map [("id", notedIdentifier)])).outcome =
          .ok (.record (noted "old" ++ [("id", notedIdentifier)])) ∧
      ∃ request : Request, request.Saves Settings.table "t" (noted "new") ∧ ∀ client : Client,
        (Gateway.perform ⟨Settings.table⟩ client "t" .update
          (.map [("id", notedIdentifier), ("data", .map (noted "new" ++ [("id", notedIdentifier)]))])).sent =
            some request := by
  have hgateway : Gateway.ofValue Settings.tableConfig = .ok ⟨Settings.table⟩ := rfl
  have hnames : ["a", "b"].Nodup := by decide
  have hfree : "id" ∉ ["a", "b"] := by decide
  have hrow : Addressable (noted "old") ["a", "b"] := (hasKey_of_text_null rfl rfl).addressable
  have hkey : (Settings.table.primaryKey "t").Nodup := hnames
  have hdata : Data false (.map (noted "new" ++ [("id", notedIdentifier)])) := by
    refine .map (by decide) ?_
    simp only [noted, List.cons_append, List.nil_append, List.forall_mem_cons, List.not_mem_nil, false_implies,
      implies_true, and_true]
    exact ⟨.text _, .null, .text _, .text _⟩
  obtain ⟨record, id, hcopy, hfield, hread, hwrite⟩ := revision_saves_record hgateway hkey (.inl hfree) hrow
  obtain rfl : record = noted "old" ++ [("id", notedIdentifier)] := (Value.map.inj (Except.ok.inj hcopy)).symm
  obtain rfl : id = notedIdentifier := (Option.some.inj hfield).symm
  refine ⟨hgateway, hnames, hfree, hrow, ?_, ?_⟩
  · obtain ⟨request, hsent⟩ := Option.isSome_iff_exists.mp (by decide +kernel : (Gateway.perform ⟨Settings.table⟩
      (fun _ => .ok ⟨200, [], .map (noted "old")⟩) "t" .getOne (.map [("id", notedIdentifier)])).sent.isSome)
    exact hread _ _ _ request ⟨200, [], .map (noted "old")⟩ rfl hsent rfl rfl
  · have hsame : ∀ name ∈ ["a", "b"], Fields.get? (noted "new" ++ [("id", notedIdentifier)]) name =
        Fields.get? (noted "old" ++ [("id", notedIdentifier)]) name := by
      intro name hname
      rcases List.mem_pair.mp hname with rfl | rfl <;> rfl
    obtain ⟨op, request, kept, -, hsaves, rfl, -, hperform⟩ :=
      hwrite _ [("id", notedIdentifier), ("data", .map (noted "new" ++ [("id", notedIdentifier)]))] hdata (by decide)
        hsame rfl rfl
    exact ⟨request, hsaves, fun client => by rw [hperform client]⟩

/-- A row in which lists lie so many levels deep outside of the key. -/
def deepNote (levels : Nat) : Fields Value := [("a", .text "x"), ("b", .null), ("note", Value.nestedLists levels)]

/-- The identifier of such a row. -/
def deepNoteIdentifier : Identifier := .text "[\"x\",null]"

theorem data_deepNote (levels : Nat) : ∀ field ∈ deepNote levels, Data false field.2 := by
  simp only [deepNote, List.forall_mem_cons, List.not_mem_nil, false_implies, implies_true, and_true]
  exact ⟨.text _, .null, data_nestedLists levels⟩

theorem identify_deepNote (levels : Nat) :
    Key.identify (deepNote levels) ["a", "b"] = .ok deepNoteIdentifier.toValue := by
  have hkeys : Key.identify [("a", .text "x"), ("b", .null)] ["a", "b"] = .ok deepNoteIdentifier.toValue := by
    refine (Key.identify_eq_ok_iff rfl _).mpr ⟨fun name hname => ?_, congrArg Value.text (by decide +kernel)⟩
    rcases List.mem_pair.mp hname with rfl | rfl <;> rfl
  rw [← hkeys]
  refine Key.identify_congr fun name hname => ?_
  rcases List.mem_pair.mp hname with rfl | rfl <;> rfl

theorem withId_deepNote (levels : Nat) :
    Record.withId (.map (deepNote levels)) ["a", "b"] "id" =
      .ok (.map (deepNote levels ++ [("id", deepNoteIdentifier.toValue)])) := by
  rw [Record.withId_map, if_neg (by decide), identify_deepNote]
  rfl

/-- Not every record can be written back as it was read: one in which lists lie 1200 deep is read, and an update with
it is not sent. -/
theorem deep_record_not_saved :
    Gateway.ofValue Settings.tableConfig = .ok ⟨Settings.table⟩ ∧ Data false (.map (deepNote 1199)) ∧
      Addressable (deepNote 1199) ["a", "b"] ∧
      ∃ record : Fields Value, record.get? "id" = some deepNoteIdentifier.toValue ∧
        (∀ parameters op (client : Client) request response,
          Operation.ofValue .getOne parameters = .accepted op →
            (Gateway.perform ⟨Settings.table⟩ client "t" .getOne parameters).sent = some request →
              client request = .ok response → response.body = .map (deepNote 1199) →
                (Gateway.perform ⟨Settings.table⟩ client "t" .getOne parameters).outcome = .ok (.record record)) ∧
        ∀ client : Client, Gateway.perform ⟨Settings.table⟩ client "t" .update
          (.map [("id", deepNoteIdentifier.toValue), ("data", .map record)]) = ⟨none, .error .tooDeep⟩ := by
  have hvalues := data_deepNote 1199
  have hdata : Data false (.map (deepNote 1199)) := .map (by simp [deepNote, Fields.names]) hvalues
  have hrow : Addressable (deepNote 1199) ["a", "b"] := (hasKey_of_text_null rfl rfl).addressable
  let record := deepNote 1199 ++ [("id", deepNoteIdentifier.toValue)]
  refine ⟨rfl, hdata, hrow, record, rfl, ?_, fun client => ?_⟩
  · intro parameters op client request response hop hsent hresponse hbody
    exact outcome_of_getOne (withId_deepNote 1199) hop hsent hresponse hbody
  · have hop : Operation.ofValue .update (.map [("id", deepNoteIdentifier.toValue), ("data", .map record)]) =
        .accepted (.update deepNoteIdentifier record) := accepted_of_update rfl rfl
    have hsome : (Gateway.rowsUrl ⟨Settings.table⟩ "t" [deepNoteIdentifier]).toOption.isSome := by decide +kernel
    obtain ⟨url, hurl⟩ := Option.isSome_iff_exists.mp hsome
    have hkept : Record.withoutId record ["a", "b"] "id" = deepNote 1199 := rfl
    have hbody : Json.write spaced (.map (Record.withoutId record ["a", "b"] "id")) = .error .tooDeep := by
      rw [hkept]
      exact write_of_deep_field hvalues (List.mem_of_getLast? rfl) (by decide) spaced
    have hrequest : Gateway.request ⟨Settings.table⟩ "t" (.update deepNoteIdentifier record) = .error .tooDeep :=
      request_of_body_failure rfl rfl (Sequence.eq_ok_of_toOption hurl) hbody
    rw [perform_of_accepted hop, Gateway.run, hrequest]

end TableGateway
