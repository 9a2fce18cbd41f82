import TableGateway.Proofs.Gateway.Request
import TableGateway.Proofs.Response.Lookup
import TableGateway.Proofs.Sequence

/-!
The totals of listings. A listing reads its total from one header of the answer, which it finds in whatever case the
service spells it and among whatever other headers. Without this header, or with an empty one of its name before it, the
listing fails.
-/

namespace TableGateway

open TableGateway.Operation (Name)
open TableGateway.Text

theorem ascii_contentRange : Ascii contentRange := by decide

/-- The operations that list rows and tell their total. -/
def listings : List Name := [.getList, .getManyReference]

section

variable {g : Gateway} {resource : String}

/-- The answer to a listing is made of the total and the rows. -/
theorem answer_of_listing {name : Name} (hname : name ∈ listings) {parameters : Value} {op : Operation}
    (hop : Operation.ofValue name parameters = .accepted op) (response : Response) :
    g.answer resource op response = g.listAnswer resource response := by
  rcases List.mem_pair.mp hname with rfl | rfl
  · obtain ⟨p, -, rfl⟩ := Check.Checked.map_eq_accepted_iff.mp hop
    rfl
  · obtain ⟨p, -, rfl⟩ := Check.Checked.map_eq_accepted_iff.mp hop
    rfl

/-- A listing fails before anything is sent, whatever the answer, or is what the answer makes of it. -/
theorem listing_cases {name : Name} (hname : name ∈ listings) (g : Gateway) (resource : String) (parameters : Value) :
    (∃ failure, ∀ response : Response,
      g.perform (fun _ => .ok response) resource name parameters = ⟨none, .error failure⟩) ∨
    ∃ request, ∀ response : Response,
      g.perform (fun _ => .ok response) resource name parameters = ⟨some request, g.listAnswer resource response⟩ := by
  rcases perform_cases g resource name parameters with ⟨failure, hfails⟩ | ⟨op, request, hop, -, hsends⟩
  · exact .inl ⟨failure, fun response => hfails _⟩
  · refine .inr ⟨request, fun response => ?_⟩
    rw [hsends, ← answer_of_listing hname hop]
    rfl

theorem listAnswer_of_varied {response : Response} {headers : Fields String}
    (hvaried : Varied contentRange response.headers headers) (hheaders : AsciiNames response.headers)
    (hothers : AsciiNames headers) :
    g.listAnswer resource { response with headers } = g.listAnswer resource response := by
  have hlookup : headerValue? response.headers contentRange = headerValue? headers contentRange :=
    headerValue?_of_varied hvaried hheaders hothers ascii_contentRange ascii_contentRange rfl
  rw [Gateway.listAnswer, Gateway.listAnswer, Response.header?, Response.header?, hlookup]
  rfl

theorem perform_of_varied {name : Name} (hname : name ∈ listings) {response : Response} {headers : Fields String}
    (hvaried : Varied contentRange response.headers headers) (hheaders : AsciiNames response.headers)
    (hothers : AsciiNames headers) (parameters : Value) :
    g.perform (fun _ => .ok { response with headers }) resource name parameters =
      g.perform (fun _ => .ok response) resource name parameters := by
  rcases listing_cases hname g resource parameters with ⟨failure, hfails⟩ | ⟨request, hsends⟩
  · rw [hfails, hfails]
  · rw [hsends, hsends, listAnswer_of_varied hvaried hheaders hothers]

theorem listAnswer_without_total {response : Response} (hheaders : AsciiNames response.headers)
    (hempty : ∀ value, FirstAlike response.headers contentRange value → value = "") :
    g.listAnswer resource response = .error (.missingHeader (.text contentRange)) := by
  have htotal : readTotal contentRange (response.header? contentRange) =
      .error (.missingHeader (.text contentRange)) := by
    cases hheader : response.header? contentRange with
    | none => rfl
    | some value =>
      obtain rfl := hempty value ((headerValue?_eq_some_iff hheaders ascii_contentRange).mp hheader)
      rfl
  rw [Gateway.listAnswer, htotal]
  rfl

/-- A listing that is sent fails if it finds no total. -/
theorem outcome_without_total {name : Name} (hname : name ∈ listings) {response : Response}
    (hheaders : AsciiNames response.headers)
    (hempty : ∀ value, FirstAlike response.headers contentRange value → value = "") {parameters : Value}
    (hsent : (g.perform (fun _ => .ok response) resource name parameters).sent.isSome) :
    (g.perform (fun _ => .ok response) resource name parameters).outcome =
      .error (.missingHeader (.text contentRange)) := by
  rcases listing_cases hname g resource parameters with ⟨failure, hfails⟩ | ⟨request, hsends⟩
  · rw [hfails] at hsent
    cases hsent
  · rw [hsends]
    exact listAnswer_without_total hheaders hempty

theorem total_of_listAnswer {response : Response} (hheaders : AsciiNames response.headers)
    {records : List (Fields Value)} {total : Int}
    (hanswer : g.listAnswer resource response = .ok (.page records total)) :
    ∃ value, FirstAlike response.headers contentRange value ∧ readTotal contentRange (some value) = .ok total := by
  obtain ⟨_, htotal, hrest⟩ := Sequence.bind_eq_ok_iff.mp hanswer
  obtain ⟨_, -, hpage⟩ := Sequence.bind_eq_ok_iff.mp hrest
  cases hpage
  cases hheader : response.header? contentRange with
  | none =>
    rw [hheader] at htotal
    cases htotal
  | some value =>
    rw [hheader] at htotal
    exact ⟨value, (headerValue?_eq_some_iff hheaders ascii_contentRange).mp hheader, htotal⟩

/-- The total of a listing that succeeds stands in the first header of its name. -/
theorem total_of_outcome {name : Name} (hname : name ∈ listings) {response : Response}
    (hheaders : AsciiNames response.headers) {parameters : Value} {records : List (Fields Value)} {total : Int}
    (houtcome : (g.perform (fun _ => .ok response) resource name parameters).outcome = .ok (.page records total)) :
    ∃ value, FirstAlike response.headers contentRange value ∧ readTotal contentRange (some value) = .ok total := by
  rcases listing_cases hname g resource parameters with ⟨failure, hfails⟩ | ⟨request, hsends⟩
  · rw [hfails] at houtcome
    cases houtcome
  · rw [hsends] at houtcome
    exact total_of_listAnswer hheaders houtcome

end

/-- The lookup of headers ignores case, and so do the totals of listings: neither the case in which the service spells
its headers nor headers of other names change how a listing ends. -/
theorem listing_total_ignores_case :
    (∀ (response : Response) (name : String), AsciiNames response.headers → Ascii name →
      (∀ value, response.header? name = some value ↔ FirstAlike response.headers name value) ∧
        (response.header? name = none ↔ ∀ n ∈ response.headers.names, ¬ Alike n name) ∧
        ∀ headers respelt, AsciiNames headers → Ascii respelt → Alike name respelt →
          Varied name response.headers headers →
            Response.header? { response with headers } respelt = response.header? name) ∧
    ∀ (g : Gateway) (resource : String) (name : Name) (parameters : Value) (response : Response), name ∈ listings →
      AsciiNames response.headers →
        (∀ headers, AsciiNames headers → Varied contentRange response.headers headers →
          g.perform (fun _ => .ok { response with headers }) resource name parameters =
            g.perform (fun _ => .ok response) resource name parameters) ∧
        (∀ records total,
          (g.perform (fun _ => .ok response) resource name parameters).outcome = .ok (.page records total) →
            ∃ value, FirstAlike response.headers contentRange value ∧
              readTotal contentRange (some value) = .ok total) ∧
        ((g.perform (fun _ => .ok response) resource name parameters).sent.isSome →
          (∀ value, FirstAlike response.headers contentRange value → value = "") →
            (g.perform (fun _ => .ok response) resource name parameters).outcome =
              .error (.missingHeader (.text contentRange))) := by
  refine ⟨fun response name hheaders hname => ⟨fun value => ?_, ?_, ?_⟩, ?_⟩
  · exact headerValue?_eq_some_iff hheaders hname
  · exact headerValue?_eq_none_iff hheaders hname
  · intro headers respelt hothers hrespelt halike hvaried
    exact (headerValue?_of_varied hvaried hheaders hothers hname hrespelt halike).symm
  · intro g resource name parameters response hname hheaders
    refine ⟨fun headers hothers hvaried => ?_, fun records total houtcome => ?_, fun hsent hempty => ?_⟩
    · exact perform_of_varied hname hvaried hheaders hothers parameters
    · exact total_of_outcome hname hheaders houtcome
    · exact outcome_without_total hname hheaders hempty hsent

/-- Two headers for the total, of which the first is empty. -/
def twiceReply : Response := ⟨200, [("Content-RANGE", ""), ("content-range", "0-0/7")], .list []⟩

def twiceRespelt : Fields String :=
  [("X-Total", "0-0/9"), ("CONTENT-range", ""), ("Date", "today"), ("Content-Range", "0-0/7")]

/-- Two headers for the total, of which the second is empty. -/
def shoutedReply : Response := ⟨200, [("Date", "today"), ("CONTENT-RANGE", "0-0/7"), ("content-range", "")], .list []⟩

theorem listing_total_ignores_case_twiceReply :
    twiceReply.header? "content-Range" = some "" ∧ twiceReply.header? "Content-Length" = none ∧
      Varied contentRange twiceReply.headers twiceRespelt ∧
      (Gateway.perform ⟨Settings.table⟩ (fun _ => .ok { twiceReply with headers := twiceRespelt }) "t" .getList
          (.map [])) =
        Gateway.perform ⟨Settings.table⟩ (fun _ => .ok twiceReply) "t" .getList (.map []) ∧
      (Gateway.perform ⟨Settings.table⟩ (fun _ => .ok twiceReply) "t" .getList (.map [])).outcome =
        .error (.missingHeader (.text contentRange)) ∧
      (Gateway.perform ⟨Settings.table⟩ (fun _ => .ok shoutedReply) "t" .getList (.map [])).outcome = .ok (.page [] 7) ∧
      ∃ value, FirstAlike shoutedReply.headers contentRange value ∧ readTotal contentRange (some value) = .ok 7 := by
  have hheaders : AsciiNames twiceReply.headers := by decide
  have hothers : AsciiNames twiceRespelt := by decide
  have hshouted : AsciiNames shoutedReply.headers := by decide
  have hvaried : Varied contentRange twiceReply.headers twiceRespelt := by
    apply Varied.added (by decide)
    apply Varied.respelt (by decide)
    apply Varied.added (by decide)
    exact Varied.respelt (by decide) .nil
  obtain ⟨hlookup, hlistings⟩ := listing_total_ignores_case
  have hname : Ascii "content-Range" := by decide
  have hlength : Ascii "Content-Length" := by decide
  have hfirst : FirstAlike twiceReply.headers "content-Range" "" := ⟨[], _, _, rfl, by decide, nofun⟩
  obtain ⟨hsame, -, hmissing⟩ := hlistings ⟨Settings.table⟩ "t" .getList (.map []) twiceReply (by decide) hheaders
  obtain ⟨-, htotal, -⟩ := hlistings ⟨Settings.table⟩ "t" .getList (.map []) shoutedReply (by decide) hshouted
  have hpage : (Gateway.perform ⟨Settings.table⟩ (fun _ => .ok shoutedReply) "t" .getList (.map [])).outcome =
      .ok (.page [] 7) := by
    have hop : Operation.ofValue .getList (.map []) = .accepted (.getList ⟨.standard, .standard, []⟩) := rfl
    obtain ⟨request, hsent⟩ := Option.isSome_iff_exists.mp (by decide +kernel : (Gateway.perform ⟨Settings.table⟩
      (fun _ => .ok shoutedReply) "t" .getList (.map [])).sent.isSome)
    exact outcome_of_sent hop hsent
  refine ⟨?_, ?_, hvaried, hsame twiceRespelt hothers hvaried, hmissing (by decide +kernel) ?_, hpage,
    htotal [] 7 hpage⟩
  · exact ((hlookup twiceReply _ hheaders hname).1 "").mpr hfirst
  · exact (hlookup twiceReply "Content-Length" hheaders hlength).2.1.mpr (by decide)
  · intro value hvalue
    have hfound := (hlookup twiceReply contentRange hheaders ascii_contentRange).1
    have hempty : twiceReply.header? contentRange = some "" := (hfound "").mpr ⟨[], _, _, rfl, by decide, nofun⟩
    exact Option.some.inj (((hfound value).mpr hvalue).symm.trans hempty)

end TableGateway
