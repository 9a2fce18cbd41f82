import TableGateway.Proofs.Check.Checked
import TableGateway.Proofs.Form
import TableGateway.Proofs.Gateway.Request
import TableGateway.Proofs.Key.Identifier

/-!
Identifiers that are handed out address the records that they were made for. The identifier of a record passes
through the checks of parameters, is decoded again and becomes the conditions of a query, and what comes out in
the end are the key values of the record itself, whatever characters they hold.
-/

namespace TableGateway

open TableGateway.Check TableGateway.Json TableGateway.Number TableGateway.Query TableGateway.Text
open TableGateway.Operation (Identifier)

/-- A value that records have in their key fields; more of them can be told apart under a compound key. -/
inductive KeyValue (compound : Bool) : Value → Prop where
  | text (s : String) : KeyValue compound (.text s)
  | int {n : Int} (hn : withinDigitLimit n) : KeyValue compound (.int n)
  | null (hcompound : compound = true) : KeyValue compound .null
  | bool (b : Bool) (hcompound : compound = true) : KeyValue compound (.bool b)

/-- The record has a value in every field of the key. -/
def HasKey (row : Fields Value) (key : PrimaryKey) : Prop :=
  ∀ name ∈ key, ∃ v, row.get? name = some v ∧ KeyValue (Key.isCompound key) v

/-- The key values of a record as scalars. -/
def keyScalars (key : PrimaryKey) (row : Fields Value) : List (List Glyph) :=
  key.map fun name => (Key.fieldOrNull row name).scalar

/-- The parameters of a call that names the records with the given identifiers. -/
inductive Names : List Value → Operation.Name → Fields Value → Prop where
  | getOne {id : Value} {given : Fields Value} (hid : given.get? "id" = some id) : Names [id] .getOne given
  | delete {id : Value} {given : Fields Value} (hid : given.get? "id" = some id) : Names [id] .delete given
  | update {id : Value} {given data : Fields Value} (hid : given.get? "id" = some id)
      (hgiven : given.get? "data" = some (.map data)) (hdata : Operation.Body data) :
    Names [id] .update given
  | getMany {ids : List Value} {given : Fields Value} (hids : given.get? "ids" = some (.list ids)) :
    Names ids .getMany given
  | deleteMany {ids : List Value} {given : Fields Value} (hids : given.get? "ids" = some (.list ids)) :
    Names ids .deleteMany given
  | updateMany {ids : List Value} {given data : Fields Value} (hids : given.get? "ids" = some (.list ids))
      (hgiven : given.get? "data" = some (.map data)) (hdata : Operation.Body data) :
    Names ids .updateMany given

theorem data_of_keyValue {compound : Bool} {v : Value} (hv : KeyValue compound v) :
    Data false v ∧ Value.nesting v = 0 := by
  cases hv with
  | text s => exact ⟨.text s, rfl⟩
  | int hn => exact ⟨.int hn, rfl⟩
  | null _ => exact ⟨.null, rfl⟩
  | bool b _ => exact ⟨.bool b, rfl⟩

/-- The key fields of a record hold JSON data that a reader of its identifier has room for. The value of the only
field of a key is an identifier itself. -/
structure Addressable (row : Fields Value) (key : PrimaryKey) : Prop where
  data : ∀ name ∈ key, ∃ v, row.get? name = some v ∧ Data false v ∧ Value.nesting v < depthLimit
  field : Key.isCompound key = false → ∀ name ∈ key, ∃ id : Identifier, row.get? name = some id.toValue

theorem HasKey.addressable {row : Fields Value} {key : PrimaryKey} (hrow : HasKey row key) : Addressable row key where
  data name hname := by
    obtain ⟨v, hget, hv⟩ := hrow name hname
    obtain ⟨hdata, hflat⟩ := data_of_keyValue hv
    have hroom : 0 < depthLimit := by decide
    exact ⟨v, hget, hdata, by rwa [hflat]⟩
  field hfield name hname := by
    obtain ⟨v, hget, hv⟩ := hrow name hname
    rw [hfield] at hv
    cases hv with
    | text s => exact ⟨.text s, hget⟩
    | int hn => exact ⟨.int _, hget⟩
    | null hcompound => cases hcompound
    | bool b hcompound => cases hcompound

theorem Addressable.mem_names {row : Fields Value} {key : PrimaryKey} (hrow : Addressable row key) {name : String}
    (hname : name ∈ key) : name ∈ row.names := by
  obtain ⟨v, hget, -⟩ := hrow.data name hname
  exact List.mem_map_of_mem (Fields.mem_of_get? hget)

/-- The key values of an addressable record are texts as scalars. -/
theorem Addressable.whole {row : Fields Value} {key : PrimaryKey} (hrow : Addressable row key) :
    ∀ value ∈ keyScalars key row, Whole value := by
  intro value hvalue
  obtain ⟨name, hname, rfl⟩ := List.mem_map.mp hvalue
  obtain ⟨v, hget, hdata, -⟩ := hrow.data name hname
  rw [Key.fieldOrNull, hget, Option.getD_some]
  exact Value.whole_scalar (Filter.ne_broken_of_data hdata)

theorem identify_compound {row : Fields Value} {key : PrimaryKey} (hkey : Key.isCompound key)
    (hrow : Addressable row key) :
    ∃ id : Identifier, Key.identify row key = .ok id.toValue ∧
      Key.decode id.toValue key = .ok (keyScalars key row) := by
  have hvalues : ∀ name ∈ key, Data false (Key.fieldOrNull row name) ∧
      Value.nesting (Key.fieldOrNull row name) < depthLimit := by
    intro name hname
    obtain ⟨v, hget, hv⟩ := hrow.data name hname
    rw [Key.fieldOrNull, hget]
    exact hv
  have hdata : ∀ name ∈ key, Data false (Key.fieldOrNull row name) := fun name hname => (hvalues name hname).1
  have hrow_fields : (Value.map row).fields? = some row := rfl
  have hdepth : ∀ name ∈ key, (Key.fieldOrNull row name).nesting < depthLimit := fun name hname =>
    (hvalues name hname).2
  refine ⟨.text (Key.compoundText row key), ?_, ?_⟩
  · have hidentify := Key.identifyValue_compound hkey hrow_fields hdata
    rwa [if_pos hdepth] at hidentify
  · have hdecode := Key.decode_compoundText hkey hdata
    rwa [if_pos hdepth, Key.valuesIn, List.map_map] at hdecode

theorem identify_field {row : Fields Value} {name : String} (hrow : Addressable row [name]) :
    ∃ id : Identifier, Key.identify row [name] = .ok id.toValue ∧
      Key.decode id.toValue [name] = .ok (keyScalars [name] row) := by
  obtain ⟨id, hid⟩ := hrow.field rfl name List.mem_cons_self
  obtain ⟨v, hget, hdata, -⟩ := hrow.data name List.mem_cons_self
  obtain rfl := Option.some.inj (hget.symm.trans hid)
  have hvalue : Key.fieldOrNull row name = id.toValue := by
    rw [Key.fieldOrNull, hget]
    rfl
  have hscalar := Key.asScalar_identifier (Value.fits_of_data hdata)
  refine ⟨id, congrArg Except.ok hvalue, Key.decode_field.mpr ⟨_, hscalar, ?_⟩⟩
  rw [keyScalars, List.map_singleton, hvalue]

/-- The identifier of a record is decoded to its key values. -/
theorem identify_decodes {row : Fields Value} {key : PrimaryKey} (hkey : key ≠ []) (hrow : Addressable row key) :
    ∃ id : Identifier, Key.identify row key = .ok id.toValue ∧
      Key.decode id.toValue key = .ok (keyScalars key row) := by
  cases hcompound : Key.isCompound key with
  | true => exact identify_compound hcompound hrow
  | false =>
    obtain ⟨name, rfl⟩ := Key.field_of_not_compound hkey hcompound
    exact identify_field hrow

/-- The generic field holds an identifier that is decoded to the key values of its record. -/
theorem withId_decodes {row : Fields Value} {key : PrimaryKey} (hkey : key ≠ []) (hrow : HasKey row key)
    (idField : String) :
    ∃ id : Identifier, (∃ copy, Record.withId (.map row) key idField = .ok copy ∧
        copy.find? idField = .ok (some id.toValue)) ∧
      Key.decode id.toValue key = .ok (keyScalars key row) := by
  obtain ⟨id, hid, hdecode⟩ := identify_decodes hkey hrow.addressable
  exact ⟨id, Record.find?_of_withId hid (fun name hname => hrow.addressable.mem_names hname) idField, hdecode⟩

theorem identifier_toValue (id : Identifier) : Operation.identifier id.toValue = .accepted id := by
  cases id <;> rfl

theorem identifiers_toValue (ids : List Identifier) :
    Check.list Operation.identifier (.list (ids.map Identifier.toValue)) = .accepted ids := by
  change Checked.items Operation.identifier 0 (ids.map Identifier.toValue) = .accepted ids
  rw [Checked.items_eq_accepted_iff, List.forall₂_map_left_iff, List.forall₂_same]
  exact fun id _ => identifier_toValue id

/-- An update with the identifier of a record and with data is accepted as it is meant. -/
theorem accepted_of_update {id : Identifier} {given data : Fields Value} (hid : given.get? "id" = some id.toValue)
    (hgiven : given.get? "data" = some (.map data)) :
    Operation.ofValue .update (.map given) = .accepted (.update id data) := by
  have hone : required given "id" Operation.identifier = .accepted id :=
    required_eq_accepted_iff.mpr ⟨_, hid, identifier_toValue id⟩
  have hmap : required given "data" Check.map = .accepted data :=
    required_eq_accepted_iff.mpr ⟨_, hgiven, rfl⟩
  have hchange : Operation.change (.map given) = .accepted (id, data) :=
    Checked.seq_eq_accepted_iff.mpr ⟨_, data, Checked.map_eq_accepted_iff.mpr ⟨id, hone, rfl⟩, hmap, rfl⟩
  exact Checked.map_eq_accepted_iff.mpr ⟨_, hchange, rfl⟩

/-- A call that names records by their identifiers is accepted as it is meant. -/
theorem accepted_of_names {ids : List Identifier} {name : Operation.Name} {given : Fields Value}
    (hnames : Names (ids.map Identifier.toValue) name given) :
    ∃ op, Operation.ofValue name (.map given) = .accepted op ∧ op.ids? = some ids ∧
      ∀ data ∈ op.data?, Operation.Body data := by
  have hlist := identifiers_toValue ids
  generalize hvalues : ids.map Identifier.toValue = values at hnames hlist
  have hsingle : ∀ {v}, values = [v] → ∃ id, ids = [id] ∧ Operation.identifier v = .accepted id := by
    rintro v rfl
    obtain ⟨id, rfl, rfl⟩ := List.map_eq_singleton_iff.mp hvalues
    exact ⟨id, rfl, identifier_toValue id⟩
  cases hnames with
  | getOne hid =>
    obtain ⟨id, rfl, hcheck⟩ := hsingle rfl
    have hone : Operation.one "GetOneParams" (.map given) = .accepted id :=
      required_eq_accepted_iff.mpr ⟨_, hid, hcheck⟩
    exact ⟨.getOne id, Checked.map_eq_accepted_iff.mpr ⟨id, hone, rfl⟩, rfl, by simp [Operation.data?]⟩
  | delete hid =>
    obtain ⟨id, rfl, hcheck⟩ := hsingle rfl
    have hone : Operation.one "DeleteParams" (.map given) = .accepted id :=
      required_eq_accepted_iff.mpr ⟨_, hid, hcheck⟩
    exact ⟨.delete id, Checked.map_eq_accepted_iff.mpr ⟨id, hone, rfl⟩, rfl, by simp [Operation.data?]⟩
  | @update _ _ data hid hgiven hdata =>
    obtain ⟨id, rfl, rfl⟩ := List.map_eq_singleton_iff.mp hvalues
    refine ⟨.update id data, accepted_of_update hid hgiven, rfl, ?_⟩
    simpa [Operation.data?] using hdata
  | getMany hids =>
    have hmany : Operation.many "GetManyParams" (.map given) = .accepted ids :=
      required_eq_accepted_iff.mpr ⟨_, hids, hlist⟩
    exact ⟨.getMany ids, Checked.map_eq_accepted_iff.mpr ⟨ids, hmany, rfl⟩, rfl, by simp [Operation.data?]⟩
  | deleteMany hids =>
    have hmany : Operation.many "DeleteManyParams" (.map given) = .accepted ids :=
      required_eq_accepted_iff.mpr ⟨_, hids, hlist⟩
    exact ⟨.deleteMany ids, Checked.map_eq_accepted_iff.mpr ⟨ids, hmany, rfl⟩, rfl, by simp [Operation.data?]⟩
  | @updateMany _ _ data hids hgiven hdata =>
    have hmany : required given "ids" (Check.list Operation.identifier) = .accepted ids :=
      required_eq_accepted_iff.mpr ⟨_, hids, hlist⟩
    have hmap : required given "data" Check.map = .accepted data :=
      required_eq_accepted_iff.mpr ⟨_, hgiven, rfl⟩
    have hchanges : Operation.changes (.map given) = .accepted (ids, data) :=
      Checked.seq_eq_accepted_iff.mpr ⟨_, data, Checked.map_eq_accepted_iff.mpr ⟨ids, hmany, rfl⟩, hmap, rfl⟩
    refine ⟨.updateMany ids data, Checked.map_eq_accepted_iff.mpr ⟨_, hchanges, rfl⟩, rfl, ?_⟩
    simpa [Operation.data?] using hdata

/-- The identifiers of records, taken from their generic field, address exactly these records: every call that
names them, writing data that there is room for, sends the one request whose query compares the key fields with the
key values of the records. -/
theorem identifiers_address_records {config : Value} {settings : Settings}
    (hgateway : Gateway.ofValue config = .ok ⟨settings⟩) {resource : String}
    (hkey : (settings.primaryKey resource).Nodup) {rows : List (Fields Value)} (hrows : rows ≠ [])
    (hpresent : ∀ row ∈ rows, HasKey row (settings.primaryKey resource))
    (hone : rows.length = 1 ∨ settings.dialect.isProcedure resource = false) :
    ∃ ids : List Value,
      List.Forall₂ (fun row id => ∃ copy,
        Record.withId (.map row) (settings.primaryKey resource) settings.idField = .ok copy ∧
          copy.find? settings.idField = .ok (some id)) rows ids ∧
      ∃ (query : String) (texts : Fields String), Form.decode? query = some texts ∧
        Addresses (settings.dialect.isProcedure resource) (settings.primaryKey resource)
          (rows.map (keyScalars (settings.primaryKey resource))) (texts.mapValues glyphsOf) ∧
        ∀ name given, Names ids name given → ∃ op request,
          Operation.ofValue name (.map given) = .accepted op ∧
          request.url = settings.apiUrl ++ "/" ++ resource ++ "?" ++ query ∧
          ∀ client : Client, Gateway.perform ⟨settings⟩ client resource name (.map given) =
            ⟨some request, client request >>= Gateway.answer ⟨settings⟩ resource op⟩ := by
  have hnonempty := (Gateway.valid_of_ofValue hgateway).primaryKey_ne_nil resource
  obtain ⟨ids, hids⟩ := Sequence.exists_forall₂ fun row hrow =>
    withId_decodes hnonempty (hpresent row hrow) settings.idField
  have hlength := hids.length_eq
  have hdecode : List.Forall₂ (fun (id : Identifier) row => Key.decode id.toValue (settings.primaryKey resource) =
      .ok row) ids (rows.map (keyScalars (settings.primaryKey resource))) :=
    List.forall₂_map_right_iff.mpr (hids.imp fun row id hid => hid.2).flip
  have hids_nonempty : ids ≠ [] := by
    rintro rfl
    exact hrows (List.forall₂_nil_right_iff.mp hids)
  obtain ⟨fields, hfields, haddress⟩ := matching_of_decode hnonempty (fun _ => hkey) hids_nonempty
    (by rwa [← hlength]) hdecode
  -- Key values of these kinds are texts, so that what is matched can be sent.
  have hwhole : ∀ scalars ∈ rows.map (keyScalars (settings.primaryKey resource)), ∀ value ∈ scalars, Whole value := by
    intro scalars hscalars
    obtain ⟨row, hrow, rfl⟩ := List.mem_map.mp hscalars
    exact (hpresent row hrow).addressable.whole
  obtain ⟨query, hquery⟩ := exists_encode_ofTexts (haddress.whole hwhole)
  obtain ⟨texts, rfl, rfl⟩ := encode_ofTexts_eq_ok_iff.mp hquery
  refine ⟨ids.map Identifier.toValue, ?_, Form.encode texts, texts, Form.decode?_encode texts, haddress, ?_⟩
  · exact List.forall₂_map_right_iff.mpr (hids.imp fun row id hid => hid.1)
  · intro name given hnames
    obtain ⟨op, hop, hop_ids, hdata⟩ := accepted_of_names hnames
    have hurl : Gateway.rowsUrl ⟨settings⟩ resource ids = .ok (Gateway.queryUrl ⟨settings⟩ resource
      (Form.encode texts)) := rowsUrl_of_matching hfields hquery
    obtain ⟨request, hrequest⟩ := request_of_url hop_ids hdata hurl
    have hsame := url_of_request hop_ids hrequest
    rw [hurl] at hsame
    exact ⟨op, request, hop, (Except.ok.inj hsame).symm, perform_of_request hop hrequest⟩

/-- Two rows whose key values hold marks of queries and of JSON texts. -/
def markedRows : List (Fields Value) :=
  [[("a", .text "x,\"y\")&"), ("b", .null)], [("b", .bool true), ("c", .text "-"), ("a", .int (-3))]]

theorem identifiers_address_marked_rows :
    Gateway.ofValue Settings.tableConfig = .ok ⟨Settings.table⟩ ∧
      (∀ row ∈ markedRows, HasKey row ["a", "b"]) ∧
      ∃ (ids : List Value) (query : String) (texts : Fields String), Form.decode? query = some texts ∧
        Addresses false ["a", "b"] ([["x,\"y\")&", "null"], ["-3", "true"]].map (List.map glyphsOf))
          (texts.mapValues glyphsOf) ∧
        ∀ name given, Names ids name given → ∃ request, request.url = "http://host/t?" ++ query ∧
          ∀ client, (Gateway.perform ⟨Settings.table⟩ client "t" name (.map given)).sent = some request := by
  have hgateway : Gateway.ofValue Settings.tableConfig = .ok ⟨Settings.table⟩ := rfl
  have hpresent : ∀ row ∈ markedRows, HasKey row ["a", "b"] := by
    intro row hrow name hname
    have hint : withinDigitLimit (-3) := withinDigitLimit_of_lt_ten (by decide)
    rcases List.mem_pair.mp hrow with rfl | rfl <;> rcases List.mem_pair.mp hname with rfl | rfl
    · exact ⟨_, rfl, .text _⟩
    · exact ⟨_, rfl, .null rfl⟩
    · exact ⟨_, rfl, .int hint⟩
    · exact ⟨_, rfl, .bool true rfl⟩
  have hkey : (Settings.table.primaryKey "t").Nodup := by decide
  obtain ⟨ids, -, query, texts, hdecode, haddress, hcalls⟩ :=
    identifiers_address_records hgateway hkey (by decide) hpresent (.inr rfl)
  have hscalars : markedRows.map (keyScalars ["a", "b"]) =
      [["x,\"y\")&", "null"], ["-3", "true"]].map (List.map glyphsOf) := by
    decide +kernel
  refine ⟨hgateway, hpresent, ids, query, texts, hdecode, ?_, fun name given hnames => ?_⟩
  · rw [← hscalars]
    exact haddress
  · obtain ⟨op, request, -, hurl, hsent⟩ := hcalls name given hnames
    exact ⟨request, hurl, fun client => by rw [hsent client]⟩

/-- The identifier of a record does not get every data of JSON values written: data that lies too deep is not sent. -/
theorem deep_data_not_sent :
    Gateway.ofValue Settings.tableConfig = .ok ⟨Settings.table⟩ ∧
      HasKey [("a", .text "x"), ("b", .text "y")] ["a", "b"] ∧ (∀ field ∈ deepFields, Data true field.2) ∧
      ∃ (id : Identifier) (copy : Value),
        Record.withId (.map [("a", .text "x"), ("b", .text "y")]) ["a", "b"] "id" = .ok copy ∧
        copy.find? "id" = .ok (some id.toValue) ∧
        ∀ client, Gateway.perform ⟨Settings.table⟩ client "t" .update
          (.map [("id", id.toValue), ("data", .map deepFields)]) = ⟨none, .error .tooDeep⟩ := by
  have hrow : HasKey [("a", .text "x"), ("b", .text "y")] ["a", "b"] := by
    intro name hname
    rcases List.mem_pair.mp hname with rfl | rfl
    · exact ⟨_, rfl, .text "x"⟩
    · exact ⟨_, rfl, .text "y"⟩
  obtain ⟨id, ⟨copy, hcopy, hid⟩, hdecode⟩ := withId_decodes (List.cons_ne_nil "a" ["b"]) hrow "id"
  have hmatch : ∃ fields, Settings.table.dialect.matching ["a", "b"] ([id].map Identifier.toValue) "t" = .ok fields ∧
      Addresses (Settings.table.dialect.isProcedure "t") ["a", "b"] [keyScalars ["a", "b"] _] fields :=
    matching_of_decode (List.cons_ne_nil "a" ["b"]) (fun _ => by decide) (List.cons_ne_nil id []) (.inl rfl)
      (.cons hdecode .nil)
  obtain ⟨fields, hfields, haddress⟩ := hmatch
  have hwhole := haddress.whole (List.forall_mem_singleton.mpr hrow.addressable.whole)
  obtain ⟨query, hquery⟩ := exists_encode_ofTexts hwhole
  have hurl : Gateway.rowsUrl ⟨Settings.table⟩ "t" [id] = .ok _ := rowsUrl_of_matching hfields hquery
  have hbody : Json.write Json.spaced (.map (Record.withoutId deepFields ["a", "b"] "id")) = .error .tooDeep :=
    write_deepFields
  have hrequest : Gateway.request ⟨Settings.table⟩ "t" (.update id deepFields) = .error .tooDeep :=
    request_of_body_failure rfl rfl hurl hbody
  have hop : Operation.ofValue .update (.map [("id", id.toValue), ("data", .map deepFields)]) =
      .accepted (.update id deepFields) := accepted_of_update rfl rfl
  refine ⟨rfl, hrow, data_deepFields, id, copy, hcopy, hid, fun client => ?_⟩
  rw [perform_of_accepted hop, Gateway.run, hrequest]

end TableGateway
