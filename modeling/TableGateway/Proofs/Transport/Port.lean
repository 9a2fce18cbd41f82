import TableGateway.Proofs.Gateway.Request
import TableGateway.Proofs.Json.Encoding
import TableGateway.Transport

/-!
A transport without headers of its own. Operations send through it the requests that they would send to any
client, and what comes of them is what it is for a client that knows nothing of bytes: it hands on answers that
tell success, with the value that their content stands for, and fails with all others. Content that is nested too
deep is where the two differ: the transport fails with it, whatever the status.
-/

namespace TableGateway

open TableGateway.Json TableGateway.Text

/-- What the content of an answer stands for: nothing, the value of a JSON text, or itself. -/
def contentValue (content : String) : Value :=
  if content = "" then .null
  else
    match Json.read (Json.withoutMark content) with
    | .ok v => v
    | .error _ => .text content

/-- The content is a JSON text whose nesting is given up. -/
def RawAnswer.TooDeep (raw : RawAnswer) : Prop := Json.read (Json.withoutMark raw.content) = .error .tooDeep

/-- A client of a service that decodes contents by what they stand for. -/
def port (service : Request → RawAnswer) : Client := fun request =>
  let raw := service request
  if 200 ≤ raw.status ∧ raw.status ≤ 299 then .ok ⟨raw.status, raw.headers, contentValue raw.content⟩
  else .error (.http (.int raw.status) (contentValue raw.content) (.text request.url))

theorem isSuccess_iff (status : Int) : isSuccess status ↔ 200 ≤ status ∧ status ≤ 299 := by
  simp only [isSuccess, Bool.and_eq_true, decide_eq_true_eq]
  omega

theorem payload_of_readable {raw : RawAnswer} (hnull : '\x00' ∉ raw.content.toList) (hdeep : ¬ raw.TooDeep) :
    payload raw.content = .ok (contentValue raw.content) := by
  rw [payload, contentValue, Json.readBytes_eq_read hnull]
  by_cases hempty : raw.content = ""
  · simp [hempty]
  · simp only [String.isEmpty_iff, hempty, if_false]
    cases hread : Json.read (Json.withoutMark raw.content) with
    | ok v => rfl
    | error fault =>
      cases fault with
      | malformed => rfl
      | tooDeep => exact absurd hread hdeep

theorem payload_of_tooDeep {raw : RawAnswer} (hnull : '\x00' ∉ raw.content.toList) (hdeep : raw.TooDeep) :
    payload raw.content = .error .tooDeep := by
  have hnonempty : raw.content ≠ "" := by
    intro hempty
    rw [RawAnswer.TooDeep, hempty] at hdeep
    cases hdeep
  rw [payload, Json.readBytes_eq_read hnull, hdeep]
  simp [hnonempty]

theorem decode_tooDeep {raw : RawAnswer} (hnull : '\x00' ∉ raw.content.toList) (hdeep : raw.TooDeep) (url : String) :
    raw.decode url = .error .tooDeep := by
  rw [RawAnswer.decode, payload_of_tooDeep hnull hdeep]
  rfl

theorem status_of_decode {raw : RawAnswer} {url : String} {response : Response}
    (hdecode : raw.decode url = .ok response) : 200 ≤ response.status ∧ response.status ≤ 299 := by
  obtain ⟨body, -, hrest⟩ := Sequence.bind_eq_ok_iff.mp hdecode
  split at hrest
  · next hsuccess =>
    cases hrest
    exact (isSuccess_iff _).mp hsuccess
  · cases hrest

/-- An operation asks with one of few sets of headers. -/
theorem headers_of_request {g : Gateway} {resource : String} {op : Operation} {request : Request}
    (hrequest : g.request resource op = .ok request) :
    request.headers ∈ [listHeaders, oneHeaders, [], writeOneHeaders, writeManyHeaders] := by
  have hlist : ∀ {p target id}, g.listRequest resource p target id = .ok request →
      request.headers = listHeaders := by
    intro p target id hrequest
    obtain ⟨fields, -, hrest⟩ := Sequence.bind_eq_ok_iff.mp hrequest
    obtain ⟨query, -, hsent⟩ := Sequence.bind_eq_ok_iff.mp hrest
    cases hsent
    rfl
  cases op
  case getList p => simp [hlist hrequest]
  case getManyReference p => simp [hlist hrequest]
  case update id data =>
    obtain ⟨fields, -, hrest⟩ := Sequence.bind_eq_ok_iff.mp hrequest
    obtain ⟨url, -, hrest⟩ := Sequence.bind_eq_ok_iff.mp hrest
    obtain ⟨body, -, hsent⟩ := Sequence.bind_eq_ok_iff.mp hrest
    cases hsent
    simp
  case updateMany ids data =>
    obtain ⟨url, -, hrest⟩ := Sequence.bind_eq_ok_iff.mp hrequest
    obtain ⟨body, -, hsent⟩ := Sequence.bind_eq_ok_iff.mp hrest
    cases hsent
    simp
  all_goals
    obtain ⟨part, -, hsent⟩ := Sequence.bind_eq_ok_iff.mp hrequest
    cases hsent
    simp

theorem nodup_headers_of_request {g : Gateway} {resource : String} {op : Operation} {request : Request}
    (hrequest : g.request resource op = .ok request) : request.headers.names.Nodup := by
  have hall : ∀ headers ∈ [listHeaders, oneHeaders, [], writeOneHeaders, writeManyHeaders],
      (Fields.names headers).Nodup := by
    decide
  exact hall _ (headers_of_request hrequest)

section

variable {t : Transport} {service : Request → RawAnswer}

theorem dispatch?_plain (hheaders : t.headers = []) (hconnection : t.connection ≠ .unavailable)
    {request : Request} (hnames : request.headers.names.Nodup) :
    ∃ timeout, t.dispatch? request = some ⟨request, timeout⟩ := by
  have hdress : t.dress request = request := by
    have hsame : Fields.merge [] request.headers = request.headers := Fields.ofPairs_of_nodup hnames
    rw [Transport.dress, hheaders, hsame]
  rw [Transport.dispatch?, hdress]
  cases hkind : t.connection with
  | injected => exact ⟨_, rfl⟩
  | opened => exact ⟨_, rfl⟩
  | unavailable => exact absurd hkind hconnection

theorem send_eq_decode {request : Request} {timeout : Option Value}
    (hdispatch : t.dispatch? request = some ⟨request, timeout⟩) :
    t.send service request = (service request).decode request.url := by
  rw [Transport.send, hdispatch]

theorem status_of_send {request : Request} {response : Response} (hsend : t.send service request = .ok response) :
    200 ≤ response.status ∧ response.status ≤ 299 := by
  rw [Transport.send] at hsend
  split at hsend
  · cases hsend
  · exact status_of_decode hsend

theorem decode_eq_port {request : Request} (hnull : '\x00' ∉ (service request).content.toList)
    (hdeep : ¬ (service request).TooDeep) :
    (service request).decode request.url = port service request := by
  rw [RawAnswer.decode, payload_of_readable hnull hdeep, port]
  by_cases hsuccess : isSuccess (service request).status
  · have hstatus := (isSuccess_iff _).mp hsuccess
    simp only [hsuccess, hstatus, and_self, if_true]
    rfl
  · have hstatus := mt (isSuccess_iff _).mpr hsuccess
    simp only [hsuccess, hstatus, if_false]
    rfl

end

/-- Whatever a service answers, operations behind a transport without headers of its own send what they send to
the port, with the same outcome, unless the answer to what was sent is nested too deep. -/
theorem transport_refines_port {t : Transport} (hheaders : t.headers = []) (hconnection : t.connection ≠ .unavailable)
    {service : Request → RawAnswer} (hnull : ∀ request, '\x00' ∉ (service request).content.toList)
    (g : Gateway) (resource : String) (name : Operation.Name) (parameters : Value) :
    (∀ request, (g.perform (port service) resource name parameters).sent = some request →
        (t.dispatch? request).map Dispatch.request = some request ∧
          ((service request).TooDeep →
            g.perform (t.send service) resource name parameters = ⟨some request, .error .tooDeep⟩)) ∧
      ((∀ request, (g.perform (port service) resource name parameters).sent = some request →
          ¬ (service request).TooDeep) →
        g.perform (t.send service) resource name parameters = g.perform (port service) resource name parameters) ∧
      ∀ request response, t.send service request = .ok response →
        200 ≤ response.status ∧ response.status ≤ 299 := by
  refine ⟨?_, ?_, fun request response hsend => status_of_send hsend⟩
  · intro request hsent
    rcases perform_cases g resource name parameters with ⟨failure, hfails⟩ | ⟨op, planned, -, hplanned, hruns⟩
    · rw [hfails] at hsent
      cases hsent
    · rw [hruns] at hsent
      cases hsent
      obtain ⟨timeout, hdispatch⟩ := dispatch?_plain hheaders hconnection (nodup_headers_of_request hplanned)
      refine ⟨by rw [hdispatch]; rfl, fun hdeep => ?_⟩
      rw [hruns, send_eq_decode hdispatch, decode_tooDeep (hnull request) hdeep request.url]
      rfl
  · intro hreadable
    rcases perform_cases g resource name parameters with ⟨failure, hfails⟩ | ⟨op, planned, -, hplanned, hruns⟩
    · rw [hfails, hfails]
    · obtain ⟨timeout, hdispatch⟩ := dispatch?_plain hheaders hconnection (nodup_headers_of_request hplanned)
      have hdeep : ¬ (service planned).TooDeep := hreadable planned (by rw [hruns])
      rw [hruns, hruns, send_eq_decode hdispatch, decode_eq_port (hnull planned) hdeep]

def smallRow : Fields Value := [("id", .int 1), ("name", .text "é")]

def smallContent : String := "\uFEFF[\x7b\"id\": 1, \"name\": \"\\u00e9\"\x7d]"

/-- A service with one row, shown behind a byte order mark. Anything but reading it is refused in plain words. -/
def smallService (request : Request) : RawAnswer :=
  if request.method = "GET" then ⟨206, [], smallContent⟩ else ⟨405, [], "read only"⟩

theorem smallContent_ne_empty : smallContent ≠ "" := by decide

theorem read_smallContent : Json.read (withoutMark smallContent) = .ok (.list [.map smallRow]) := by
  have hdata : Data false (.list [.map smallRow]) := by
    refine .list (List.forall_mem_singleton.mpr (.map (by decide) ?_))
    simp only [smallRow, List.forall_mem_cons, List.not_mem_nil, false_implies, implies_true, and_true]
    exact ⟨.int (withinDigitLimit_of_lt_ten (by decide)), .text _⟩
  have hcontent : withoutMark smallContent = String.ofList (render spaced (.list [.map smallRow])) := by
    decide +kernel
  rw [hcontent, read_render spaced_legible hdata]
  rfl

theorem read_readOnly : Json.read (withoutMark "read only") = .error .malformed := by
  have hcontent : withoutMark "read only" = "read only" := by decide +kernel
  rw [hcontent]
  rfl

theorem transport_refines_port_smallService :
    Transport.plain.headers = [] ∧ Transport.plain.connection ≠ .unavailable ∧
      (∀ request, '\x00' ∉ (smallService request).content.toList) ∧
      (Gateway.perform ⟨Settings.table⟩ (Transport.plain.send smallService) "posts" .getMany
        (.map [("ids", .list [.int 1])])).outcome = .ok (.records [smallRow]) ∧
      (Gateway.perform ⟨Settings.table⟩ (Transport.plain.send smallService) "posts" .deleteMany
        (.map [("ids", .list [.int 1])])).outcome =
          .error (.http (.int 405) (.text "read only") (.text "http://host/posts?id=eq.1")) := by
  have hnull : ∀ request, '\x00' ∉ (smallService request).content.toList := by
    intro request
    rw [smallService]
    split <;> decide +kernel
  have hreadable : ∀ request, ¬ (smallService request).TooDeep := by
    intro request
    rw [smallService, RawAnswer.TooDeep]
    split
    · rw [read_smallContent]
      simp
    · rw [read_readOnly]
      simp
  have hconnection : Transport.plain.connection ≠ .unavailable := by decide
  have hsame (name : Operation.Name) := (transport_refines_port rfl hconnection hnull ⟨Settings.table⟩ "posts" name
    (.map [("ids", .list [.int 1])])).2.1 fun request _ => hreadable request
  refine ⟨rfl, hconnection, hnull, ?_, ?_⟩
  · have hrequest : (Gateway.request ⟨Settings.table⟩ "posts" (.getMany [.int 1])).toOption =
        some ⟨"GET", "http://host/posts?id=eq.1", [], none⟩ := by
      decide +kernel
    have hanswer : port smallService ⟨"GET", "http://host/posts?id=eq.1", [], none⟩ =
        .ok ⟨206, [], .list [.map smallRow]⟩ := by
      simp [port, smallService, contentValue, smallContent_ne_empty, read_smallContent]
    rw [hsame, perform_of_request rfl (Sequence.eq_ok_of_toOption hrequest), hanswer]
    rfl
  · have hrequest : (Gateway.request ⟨Settings.table⟩ "posts" (.deleteMany [.int 1])).toOption =
        some ⟨"DELETE", "http://host/posts?id=eq.1", writeManyHeaders, none⟩ := by
      decide +kernel
    have hanswer : port smallService ⟨"DELETE", "http://host/posts?id=eq.1", writeManyHeaders, none⟩ =
        .error (.http (.int 405) (.text "read only") (.text "http://host/posts?id=eq.1")) := by
      simp [port, smallService, contentValue, read_readOnly]
    rw [hsame, perform_of_request rfl (Sequence.eq_ok_of_toOption hrequest), hanswer]
    rfl

/-- An error of the service, with brackets that are never closed for an explanation. -/
def garbled (count : Nat) : RawAnswer := ⟨500, [], brackets count⟩

theorem null_not_mem_garbled (count : Nat) : '\x00' ∉ (garbled count).content.toList := by
  rw [garbled, brackets, String.toList_ofList, List.mem_replicate]
  simp

theorem tooDeep_garbled {count : Nat} (hcount : depthLimit < count) : (garbled count).TooDeep := by
  rw [RawAnswer.TooDeep, garbled, withoutMark_brackets]
  exact read_brackets hcount

theorem contentValue_garbled {count : Nat} (hcount : depthLimit < count) :
    contentValue (garbled count).content = .text (brackets count) := by
  have hdeep := tooDeep_garbled hcount
  have hnonempty : (garbled count).content ≠ "" := by
    intro hempty
    rw [RawAnswer.TooDeep, hempty] at hdeep
    cases hdeep
  rw [contentValue, if_neg hnonempty, hdeep]
  rfl

/-- Content may make an operation fail in place of the status that came with it: here it opens 1200 brackets, and
is no JSON text to any reader. -/
theorem endless_content_fails :
    '\x00' ∉ (garbled 1200).content.toList ∧ (∀ depth v, parse depth (glyphsOf (garbled 1200).content) ≠ .ok v) ∧
      (Gateway.perform ⟨Settings.table⟩ (port fun _ => garbled 1200) "posts" .getOne (.map [("id", .int 1)])).outcome =
        .error (.http (.int 500) (.text (garbled 1200).content) (.text "http://host/posts?id=eq.1")) ∧
      (Gateway.perform ⟨Settings.table⟩ (Transport.plain.send fun _ => garbled 1200) "posts" .getOne
        (.map [("id", .int 1)])).outcome = .error .tooDeep := by
  have hmany : depthLimit < 1200 := by decide
  have hrequest : (Gateway.request ⟨Settings.table⟩ "posts" (.getOne (.int 1))).toOption =
      some ⟨"GET", "http://host/posts?id=eq.1", oneHeaders, none⟩ := by
    decide +kernel
  have hplanned := Sequence.eq_ok_of_toOption hrequest
  refine ⟨null_not_mem_garbled 1200, fun depth v => parse_brackets depth 1200 v, ?_, ?_⟩
  · have hstatus : (garbled 1200).status = 500 := rfl
    have hanswer : port (fun _ => garbled 1200) ⟨"GET", "http://host/posts?id=eq.1", oneHeaders, none⟩ =
        .error (.http (.int 500) (.text (garbled 1200).content) (.text "http://host/posts?id=eq.1")) := by
      simp only [port, hstatus, contentValue_garbled hmany]
      rfl
    rw [perform_of_request rfl hplanned, hanswer]
    rfl
  · have hconnection : Transport.plain.connection ≠ .unavailable := by decide
    obtain ⟨timeout, hdispatch⟩ := dispatch?_plain rfl hconnection (nodup_headers_of_request hplanned)
    rw [perform_of_request rfl hplanned, send_eq_decode hdispatch,
      decode_tooDeep (null_not_mem_garbled 1200) (tooDeep_garbled hmany)]
    rfl

end TableGateway
