import TableGateway.Proofs.Gateway.Request
import TableGateway.Proofs.Key.Identity

/-!
One identifier for a record, whatever operation reports it. Rows of the service reach callers as records with a
generic field, as the identifiers alone, or as the data of a creation that are given the identifier of the new row.
The ways that lead there differ, and for the same rows they end at the same identifiers in the same order.
-/

namespace TableGateway

open TableGateway.Check TableGateway.Json TableGateway.Number

/-- Records with the fields of some rows, and with the given identifiers in the generic field. -/
structure Shows (idField : String) (rows : List (Fields Value)) (ids : List Value) (records : List (Fields Value)) :
    Prop where
  identifiers : records.map (·.get? idField) = ids.map some
  others : List.Forall₂ (fun row record => ∀ name, name ≠ idField → record.get? name = row.get? name) rows records

/-- The service answers an operation with the given rows, one that names a single record with a single row. The
answer to a listing tells a total. -/
def Response.Carries (response : Response) (rows : List (Fields Value)) : Operation → Prop
  | .getList _ | .getManyReference _ => response.body = .list (rows.map .map) ∧
    ∃ total, readTotal contentRange (response.header? contentRange) = .ok total
  | .getMany _ | .updateMany _ _ | .deleteMany _ => response.body = .list (rows.map .map)
  | .getOne _ | .create _ | .update _ _ | .delete _ => ∃ row, rows = [row] ∧ response.body = .map row

/-- An operation tells its caller of the given rows, under the given identifiers. A creation shows the caller's
own data. -/
def Answer.Tells (answer : Answer) (idField : String) (rows : List (Fields Value)) (ids : List Value) :
    Operation → Prop
  | .getList _ | .getManyReference _ =>
    ∃ records total, answer = Answer.page records total ∧ Shows idField rows ids records
  | .getMany _ => ∃ records, answer = .records records ∧ Shows idField rows ids records
  | .getOne _ | .update _ _ | .delete _ => ∃ record, answer = .record record ∧ Shows idField rows ids [record]
  | .create data => ∃ record, answer = .record record ∧ Shows idField [data] ids [record]
  | .updateMany _ _ | .deleteMany _ => answer = .ids ids

theorem Response.rows_of_list {response : Response} {rows : List (Fields Value)}
    (hbody : response.body = .list (rows.map .map)) : response.rows = .ok (rows.map .map) := by
  rw [Response.rows, hbody]
  cases rows <;> rfl

/-- Rows that have the fields of a key. The values of a compound key have a JSON text, for which there is room in the
array that an identifier is. -/
def Keyed (key : PrimaryKey) (rows : List (Fields Value)) : Prop :=
  ∀ row ∈ rows, ∀ name ∈ key, ∃ v, row.get? name = some v ∧ (Key.isCompound key → vet v (depthLimit - 1) = .ok ())

section

variable {key : PrimaryKey} {rows : List (Fields Value)}

theorem Keyed.mem_names (hrows : Keyed key rows) {row : Fields Value} (hrow : row ∈ rows) {name : String}
    (hname : name ∈ key) : name ∈ row.names := by
  obtain ⟨v, hget, -⟩ := hrows row hrow name hname
  exact List.mem_map_of_mem (Fields.mem_of_get? hget)

theorem Keyed.identify (hkey : key ≠ []) (hrows : Keyed key rows) :
    ∃ ids, List.Forall₂ (fun row id => Key.identify row key = .ok id) rows ids := by
  apply Sequence.exists_forall₂
  intro row hrow
  refine Key.exists_identify hkey fun hcompound name hname => ?_
  obtain ⟨v, hget, hv⟩ := hrows row hrow name hname
  rw [Key.fieldOrNull, hget]
  exact hv hcompound

end

section

variable {g : Gateway} {resource : String} {rows : List (Fields Value)} {ids : List Value} {response : Response}

/-- Rows are shown with their identifiers. -/
theorem shapes_show (hrows : Keyed (g.primaryKey resource) rows)
    (hids : List.Forall₂ (fun row id => Key.identify row (g.primaryKey resource) = .ok id) rows ids) :
    ∃ records, (rows.map .map).mapM (g.shape resource) = .ok (records.map .map) ∧
      Shows g.settings.idField rows ids records := by
  suffices hshapes : ∃ records, List.Forall₂ (fun row record =>
      g.shape resource (.map row) = .ok (.map record)) rows records ∧ Shows g.settings.idField rows ids records by
    obtain ⟨records, hrecords, hshows⟩ := hshapes
    refine ⟨records, ?_, hshows⟩
    rw [Sequence.mapM_eq_ok_iff, List.forall₂_map_left_iff, List.forall₂_map_right_iff]
    exact hrecords
  induction hids with
  | nil => exact ⟨[], .nil, rfl, .nil⟩
  | @cons row id rest more hid _ ih =>
    obtain ⟨hrow, hrest⟩ := List.forall_mem_cons.mp hrows
    obtain ⟨records, hrecords, hidentifiers, hothers⟩ := ih hrest
    have hpresent : ∀ name ∈ g.primaryKey resource, name ∈ row.names :=
      fun name hname => hrows.mem_names List.mem_cons_self hname
    obtain ⟨record, hrecord, hfield, hother⟩ := Record.exists_copy hid hpresent g.settings.idField
    refine ⟨record :: records, .cons hrecord hrecords, ?_, .cons hother hothers⟩
    rw [List.map_cons, List.map_cons, hfield, hidentifiers]

theorem records_show (hrows : Keyed (g.primaryKey resource) rows)
    (hids : List.Forall₂ (fun row id => Key.identify row (g.primaryKey resource) = .ok id) rows ids)
    (hbody : response.body = .list (rows.map .map)) :
    ∃ records, g.records resource response = .ok records ∧ Shows g.settings.idField rows ids records := by
  obtain ⟨records, hrecords, hshows⟩ := shapes_show hrows hids
  have hchecked : Check.list Check.map (.list (records.map .map)) = .accepted records := by
    change Checked.items Check.map 0 (records.map .map) = .accepted records
    rw [Checked.items_eq_accepted_iff, List.forall₂_map_left_iff, List.forall₂_same]
    exact fun record _ => rfl
  refine ⟨records, ?_, hshows⟩
  rw [Gateway.records, Response.rows_of_list hbody]
  refine Sequence.bind_eq_ok_iff.mpr ⟨_, rfl, Sequence.bind_eq_ok_iff.mpr ⟨_, hrecords, ?_⟩⟩
  rw [Checked.toExcept_eq_ok_iff, Checked.under_eq_accepted_iff]
  exact hchecked

theorem record_shows {row : Fields Value} (hrows : Keyed (g.primaryKey resource) [row])
    (hids : List.Forall₂ (fun row id => Key.identify row (g.primaryKey resource) = .ok id) [row] ids)
    (hbody : response.body = .map row) :
    ∃ record, g.record resource response = .ok record ∧ Shows g.settings.idField [row] ids [record] := by
  obtain ⟨records, hrecords, hshows⟩ := shapes_show hrows hids
  obtain ⟨record, rfl⟩ := List.length_eq_one_iff.mp hshows.others.length_eq.symm
  rw [Sequence.mapM_eq_ok_iff] at hrecords
  obtain ⟨hrecord, -⟩ := List.forall₂_cons.mp hrecords
  refine ⟨record, ?_, hshows⟩
  rw [Gateway.record, hbody]
  exact Sequence.bind_eq_ok_iff.mpr ⟨_, hrecord, rfl⟩

theorem rowIds_of_list
    (hids : List.Forall₂ (fun row id => Key.identify row (g.primaryKey resource) = .ok id) rows ids)
    (hbody : response.body = .list (rows.map .map)) : g.rowIds resource response = .ok ids := by
  rw [Gateway.rowIds, Response.rows_of_list hbody]
  refine Sequence.bind_eq_ok_iff.mpr ⟨_, rfl, ?_⟩
  rw [Sequence.mapM_eq_ok_iff, List.forall₂_map_left_iff]
  exact hids

/-- The caller's data are shown with the identifier of the row, whatever they held in the generic field. -/
theorem createdRecord_shows (hkey : g.primaryKey resource ≠ []) {row : Fields Value}
    (hrows : Keyed (g.primaryKey resource) [row])
    (hids : List.Forall₂ (fun row id => Key.identify row (g.primaryKey resource) = .ok id) [row] ids)
    (hbody : response.body = .map row) (data : Fields Value) :
    ∃ record, g.createdRecord resource data response = .ok record ∧
      Shows g.settings.idField [data] ids [record] := by
  obtain ⟨id, more, hid, hmore, rfl⟩ := List.forall₂_cons_left_iff.mp hids
  obtain rfl := List.forall₂_nil_left_iff.mp hmore
  obtain ⟨name, hname⟩ := List.exists_mem_of_ne_nil _ hkey
  have hfull : response.body.isVoid = false := by
    have hmem := hrows.mem_names List.mem_cons_self hname
    rw [hbody]
    cases row with
    | nil => simp [Fields.names] at hmem
    | cons field rest => rfl
  refine ⟨data.put g.settings.idField id, ?_, ?_, ?_⟩
  · rw [Gateway.createdRecord, hfull, hbody]
    exact Sequence.bind_eq_ok_iff.mpr ⟨id, hid, rfl⟩
  · rw [List.map_singleton, List.map_singleton, Fields.get?_put, if_pos rfl]
  · refine List.forall₂_cons.mpr ⟨fun name hname => ?_, .nil⟩
    rw [Fields.get?_put, if_neg (Ne.symm hname)]

theorem answer_tells (hkey : g.primaryKey resource ≠ []) (hrows : Keyed (g.primaryKey resource) rows)
    (hids : List.Forall₂ (fun row id => Key.identify row (g.primaryKey resource) = .ok id) rows ids)
    {op : Operation} (hcarries : response.Carries rows op) :
    ∃ answer, g.answer resource op response = .ok answer ∧ answer.Tells g.settings.idField rows ids op := by
  have hpage (hbody : response.body = .list (rows.map .map))
      (htotal : ∃ total, readTotal contentRange (response.header? contentRange) = .ok total) :
      ∃ records total, g.listAnswer resource response = .ok (.page records total) ∧
        Shows g.settings.idField rows ids records := by
    obtain ⟨total, htotal⟩ := htotal
    obtain ⟨records, hrecords, hshows⟩ := records_show hrows hids hbody
    refine ⟨records, total, ?_, hshows⟩
    exact Sequence.bind_eq_ok_iff.mpr ⟨_, htotal, Sequence.bind_eq_ok_iff.mpr ⟨_, hrecords, rfl⟩⟩
  have hone (hcarries : ∃ row, rows = [row] ∧ response.body = .map row) :
      ∃ record, (Answer.record <$> g.record resource response) = .ok (.record record) ∧
        Shows g.settings.idField rows ids [record] := by
    obtain ⟨row, rfl, hbody⟩ := hcarries
    obtain ⟨record, hrecord, hshows⟩ := record_shows hrows hids hbody
    exact ⟨record, congrArg (Answer.record <$> ·) hrecord, hshows⟩
  have hchanged (hbody : response.body = .list (rows.map .map)) :
      (Answer.ids <$> g.rowIds resource response) = .ok (.ids ids) :=
    congrArg (Answer.ids <$> ·) (rowIds_of_list hids hbody)
  cases op with
  | getList p =>
    obtain ⟨records, total, hanswer, hshows⟩ := hpage hcarries.1 hcarries.2
    exact ⟨_, hanswer, records, total, rfl, hshows⟩
  | getManyReference p =>
    obtain ⟨records, total, hanswer, hshows⟩ := hpage hcarries.1 hcarries.2
    exact ⟨_, hanswer, records, total, rfl, hshows⟩
  | getMany named =>
    obtain ⟨records, hrecords, hshows⟩ := records_show hrows hids hcarries
    exact ⟨_, congrArg (Answer.records <$> ·) hrecords, records, rfl, hshows⟩
  | create data =>
    obtain ⟨row, rfl, hbody⟩ := hcarries
    obtain ⟨record, hrecord, hshows⟩ := createdRecord_shows hkey hrows hids hbody data
    exact ⟨_, congrArg (Answer.record <$> ·) hrecord, record, rfl, hshows⟩
  | getOne id =>
    obtain ⟨record, hanswer, hshows⟩ := hone hcarries
    exact ⟨_, hanswer, record, rfl, hshows⟩
  | update id data =>
    obtain ⟨record, hanswer, hshows⟩ := hone hcarries
    exact ⟨_, hanswer, record, rfl, hshows⟩
  | delete id =>
    obtain ⟨record, hanswer, hshows⟩ := hone hcarries
    exact ⟨_, hanswer, record, rfl, hshows⟩
  | updateMany named data => exact ⟨_, hchanged hcarries, rfl⟩
  | deleteMany named => exact ⟨_, hchanged hcarries, rfl⟩

end

/-- Whichever operation the service answers with rows, and whatever the caller passed to it: the caller is told of
the rows, in their order, under the identifiers that are made of them. -/
theorem operations_agree_on_identifiers {config : Value} {settings : Settings}
    (hgateway : Gateway.ofValue config = .ok ⟨settings⟩) {resource : String} {rows : List (Fields Value)}
    (hrows : Keyed (settings.primaryKey resource) rows) :
    ∃ ids, rows.mapM (Key.identify · (settings.primaryKey resource)) = .ok ids ∧
      ∀ name parameters op, Operation.ofValue name parameters = .accepted op →
        ∀ (client : Client) request response,
          (Gateway.perform ⟨settings⟩ client resource name parameters).sent = some request →
            client request = .ok response → response.Carries rows op →
              ∃ answer, (Gateway.perform ⟨settings⟩ client resource name parameters).outcome = .ok answer ∧
                answer.Tells settings.idField rows ids op := by
  have hkey := (Gateway.valid_of_ofValue hgateway).primaryKey_ne_nil resource
  obtain ⟨ids, hids⟩ := hrows.identify hkey
  refine ⟨ids, Sequence.mapM_eq_ok_iff.mpr hids, ?_⟩
  intro name parameters op hop client request response hsent hresponse hcarries
  obtain ⟨answer, hanswer, htells⟩ := answer_tells (g := ⟨settings⟩) hkey hrows hids hcarries
  refine ⟨answer, ?_, htells⟩
  rw [outcome_of_sent hop hsent]
  exact Sequence.bind_eq_ok_iff.mpr ⟨response, hresponse, hanswer⟩

/-- A row with a field of the name of the generic one, which is no key field. -/
def stampedReply : Fields Value := [("id", .int 9), ("b", .text "x"), ("a", .int 1)]

/-- The row in a list, with the total of a listing. -/
def listReply : Response := ⟨200, [("content-range", "0-0/1")], .list [.map stampedReply]⟩

theorem operations_agree_on_identifiers_stampedReply :
    Gateway.ofValue Settings.tableConfig = .ok ⟨Settings.table⟩ ∧ Keyed ["a", "b"] [stampedReply] ∧
      (∃ records total, (Gateway.perform ⟨Settings.table⟩ (fun _ => .ok listReply) "t" .getList (.map [])).outcome =
          .ok (.page records total) ∧ records.map (·.get? "id") = [some (.text "[1,\"x\"]")]) ∧
      (Gateway.perform ⟨Settings.table⟩ (fun _ => .ok listReply) "t" .deleteMany
        (.map [("ids", .list [.text "[1,2]"])])).outcome = .ok (.ids [.text "[1,\"x\"]"]) ∧
      ∃ record, (Gateway.perform ⟨Settings.table⟩ (fun _ => .ok ⟨201, [], .map stampedReply⟩) "t" .create
          (.map [("data", .map [("id", .int 5)])])).outcome = .ok (.record record) ∧
        record.get? "id" = some (.text "[1,\"x\"]") := by
  have hgateway : Gateway.ofValue Settings.tableConfig = .ok ⟨Settings.table⟩ := rfl
  have hkeyed : Keyed ["a", "b"] [stampedReply] := by
    have hone : Data false (.int 1) := .int (withinDigitLimit_of_lt_ten (by decide))
    intro row hrow name hname
    rw [List.mem_singleton.mp hrow]
    rcases List.mem_pair.mp hname with rfl | rfl
    · exact ⟨_, rfl, fun _ => vet_eq_ok_of_data hone (Nat.zero_le _)⟩
    · exact ⟨_, rfl, fun _ => rfl⟩
  have htable : Keyed (Settings.table.primaryKey "t") [stampedReply] := hkeyed
  obtain ⟨ids, hids, htells⟩ := operations_agree_on_identifiers hgateway htable
  have hidentify : Key.identify stampedReply ["a", "b"] = .ok (.text "[1,\"x\"]") := by
    refine (Key.identify_eq_ok_iff rfl _).mpr ⟨fun name hname => ?_, congrArg Value.text (by decide +kernel)⟩
    obtain ⟨v, hget, hv⟩ := hkeyed stampedReply List.mem_cons_self name hname
    rw [Key.fieldOrNull, hget]
    exact hv rfl
  obtain rfl : ids = [.text "[1,\"x\"]"] := by
    obtain ⟨id, more, hid, hmore, rfl⟩ := List.forall₂_cons_left_iff.mp (Sequence.mapM_eq_ok_iff.mp hids)
    obtain rfl := List.forall₂_nil_left_iff.mp hmore
    exact congrArg ([·]) (Except.ok.inj (hid.symm.trans hidentify))
  have hlisted : listReply.Carries [stampedReply] (.getList ⟨.standard, .standard, []⟩) := ⟨rfl, 1, rfl⟩
  have hdeleted : listReply.Carries [stampedReply] (.deleteMany [.text "[1,2]"]) := rfl
  have hcreated : Response.Carries ⟨201, [], .map stampedReply⟩ [stampedReply] (.create [("id", .int 5)]) :=
    ⟨stampedReply, rfl, rfl⟩
  refine ⟨hgateway, hkeyed, ?_, ?_, ?_⟩
  · obtain ⟨request, hsent⟩ := Option.isSome_iff_exists.mp (by decide +kernel : (Gateway.perform ⟨Settings.table⟩
      (fun _ => .ok listReply) "t" .getList (.map [])).sent.isSome)
    obtain ⟨answer, houtcome, records, total, rfl, hshows⟩ :=
      htells .getList (.map []) _ rfl (fun _ => .ok listReply) request listReply hsent rfl hlisted
    exact ⟨records, total, houtcome, hshows.identifiers⟩
  · obtain ⟨request, hsent⟩ := Option.isSome_iff_exists.mp (by decide +kernel : (Gateway.perform ⟨Settings.table⟩
      (fun _ => .ok listReply) "t" .deleteMany (.map [("ids", .list [.text "[1,2]"])])).sent.isSome)
    obtain ⟨answer, houtcome, rfl⟩ :=
      htells .deleteMany _ _ rfl (fun _ => .ok listReply) request listReply hsent rfl hdeleted
    exact houtcome
  · obtain ⟨request, hsent⟩ := Option.isSome_iff_exists.mp (by decide +kernel : (Gateway.perform ⟨Settings.table⟩
      (fun _ => .ok ⟨201, [], .map stampedReply⟩) "t" .create (.map [("data", .map [("id", .int 5)])])).sent.isSome)
    obtain ⟨answer, houtcome, record, rfl, hshows⟩ :=
      htells .create _ _ rfl (fun _ => .ok ⟨201, [], .map stampedReply⟩) request _ hsent rfl hcreated
    exact ⟨record, houtcome, List.singleton_inj.mp hshows.identifiers⟩

/-- A row without an identifier is not told of. -/
theorem answer_of_identify_error {g : Gateway} {resource : String} {row : Fields Value} {failure : Failure}
    (hkey : g.primaryKey resource ≠ [g.settings.idField])
    (hid : Key.identify row (g.primaryKey resource) = .error failure) (id : Operation.Identifier) (status : Int)
    (headers : Fields String) :
    g.answer resource (.delete id) ⟨status, headers, .map row⟩ = .error failure := by
  have hshape : g.shape resource (.map row) = .error failure := by
    rw [Gateway.shape, Record.withId_map, if_neg hkey, hid]
    rfl
  have hrecord : g.record resource ⟨status, headers, .map row⟩ = .error failure := congrArg (· >>= _) hshape
  exact congrArg (Answer.record <$> ·) hrecord

/-- A row of JSON values need not be told of: there is no identifier of one in which lists lie 1200 deep. -/
theorem deep_row_not_told :
    Gateway.ofValue Settings.tableConfig = .ok ⟨Settings.table⟩ ∧
      (∀ name ∈ ["a", "b"], ∃ v, (Key.deepRecord 1199).get? name = some v ∧ Data false v) ∧
      (Gateway.perform ⟨Settings.table⟩ (fun _ => .ok ⟨200, [], .map (Key.deepRecord 1199)⟩) "t" .delete
        (.map [("id", .text "[1,2]")])).outcome = .error .tooDeep := by
  have hdata : ∀ name ∈ ["a", "b"], ∃ v, (Key.deepRecord 1199).get? name = some v ∧ Data false v := by
    intro name hname
    have hfield := Key.data_deepRecord 1199 name hname
    rcases List.mem_pair.mp hname with rfl | rfl <;> exact ⟨_, rfl, hfield⟩
  have hfields : (Value.map (Key.deepRecord 1199)).fields? = some (Key.deepRecord 1199) := rfl
  have hkey : Gateway.primaryKey ⟨Settings.table⟩ "t" = ["a", "b"] := rfl
  have hidentify : Key.identify (Key.deepRecord 1199) (Gateway.primaryKey ⟨Settings.table⟩ "t") = .error .tooDeep := by
    rw [hkey, ← Key.identifyValue_of_fields? hfields, Key.identifyValue_deepRecord 1199 (by decide)]
  have hsome : (Gateway.request ⟨Settings.table⟩ "t" (.delete (.text "[1,2]"))).toOption.isSome := by decide +kernel
  obtain ⟨request, hrequest⟩ := Option.isSome_iff_exists.mp hsome
  refine ⟨rfl, hdata, ?_⟩
  rw [outcome_of_response rfl (Sequence.eq_ok_of_toOption hrequest) rfl]
  exact answer_of_identify_error (by decide) hidentify _ 200 []

end TableGateway
