import Mathlib.Data.List.Nodup
import TableGateway.Proofs.Fields
import TableGateway.Proofs.Text.Case
import TableGateway.Transport

/-!
Which headers a transport sends. Names of headers are compared without regard to case when an answer is read, but
letter by letter when the headers of a request take the place of those of the transport. So the request prevails
as long as the two spell a common name alike; when they do not, both values are sent.
-/

namespace TableGateway

open TableGateway.Text

/-- The values of all headers whose name differs in case at most. -/
def headerValues (headers : Fields String) (name : String) : List String :=
  (headers.filter fun header => sameIgnoringCase header.1 name).map (·.2)

/-- No header is given twice, in whatever case. -/
def Distinct (headers : Fields String) : Prop := (headers.names.map fun name => lower name.toList).Nodup

instance (headers : Fields String) : Decidable (Distinct headers) := inferInstanceAs (Decidable (List.Nodup _))

/-- Of each name there is one header at most, with the value of the request when that sets it and the value of the
transport when the request does not. -/
def Prevails (own request sent : Fields String) : Prop :=
  ∀ name, headerValues sent name = ((headerValue? request name).or (headerValue? own name)).toList

section

variable {headers : Fields String}

theorem Distinct.nodup (hdistinct : Distinct headers) : headers.names.Nodup := List.Nodup.of_map _ hdistinct

/-- Two names of a distinct collection that differ in case at most are one. -/
theorem Distinct.eq_of_same (hdistinct : Distinct headers) {a b : String} (ha : a ∈ headers.names)
    (hb : b ∈ headers.names) (hsame : sameIgnoringCase a b) : a = b :=
  List.inj_on_of_nodup_map hdistinct ha hb ((sameIgnoringCase_iff a b).mp hsame)

theorem headerValues_cons (header : String × String) (rest : Fields String) (name : String) :
    headerValues (header :: rest) name =
      if sameIgnoringCase header.1 name then header.2 :: headerValues rest name else headerValues rest name := by
  rw [headerValues, List.filter_cons]
  split <;> rfl

theorem headerValues_eq_nil {name : String} (hnone : ∀ n ∈ headers.names, ¬ sameIgnoringCase n name) :
    headerValues headers name = [] := by
  rw [headerValues, List.map_eq_nil_iff, List.filter_eq_nil_iff]
  intro header hheader
  exact hnone header.1 (List.mem_map_of_mem hheader)

/-- A header whose name is the only one of its kind is what is found under all forms of the name. -/
theorem headerValues_eq_singleton (hnames : headers.names.Nodup) {n name value : String}
    (hget : headers.get? n = some value) (hsame : sameIgnoringCase n name)
    (honly : ∀ m ∈ headers.names, sameIgnoringCase m name → m = n) : headerValues headers name = [value] := by
  induction headers with
  | nil => simp at hget
  | cons header rest ih =>
    obtain ⟨m, v⟩ := header
    simp only [Fields.names, List.map_cons, List.nodup_cons, List.forall_mem_cons] at hnames honly
    rw [Fields.get?_cons] at hget
    rw [headerValues_cons]
    by_cases hm : m = n
    · subst hm
      rw [if_pos rfl] at hget
      cases hget
      have hrest : headerValues rest name = [] := by
        apply headerValues_eq_nil
        intro other hother hmatch
        have hother_eq : other = m := honly.2 other hother hmatch
        rw [hother_eq] at hother
        exact hnames.1 hother
      rw [if_pos hsame, hrest]
    · rw [if_neg hm] at hget
      have hskip : ¬ sameIgnoringCase m name := fun hmatch => hm (honly.1 hmatch)
      rw [if_neg hskip]
      exact ih hnames.2 hget honly.2

/-- What is found in a distinct collection stands there under one form of its name. -/
theorem Distinct.exists_of_headerValue? (hdistinct : Distinct headers) {name value : String}
    (hfound : headerValue? headers name = some value) :
    ∃ n ∈ headers.names, headers.get? n = some value ∧ sameIgnoringCase n name := by
  obtain ⟨⟨n, v⟩, hfind, rfl⟩ := Option.map_eq_some_iff.mp hfound
  have hmem := List.mem_of_find?_eq_some hfind
  have hsame : sameIgnoringCase (n, v).1 name := by simpa using List.find?_some hfind
  exact ⟨n, List.mem_map_of_mem hmem, Fields.get?_of_mem hdistinct.nodup hmem, hsame⟩

theorem not_same_of_headerValue? {name : String} (hnone : headerValue? headers name = none) :
    ∀ n ∈ headers.names, ¬ sameIgnoringCase n name := by
  intro n hn
  obtain ⟨header, hheader, rfl⟩ := List.mem_map.mp hn
  exact List.find?_eq_none.mp (Option.map_eq_none_iff.mp hnone) header hheader

/-- Two headers whose names differ in case at most are both among the values of their name. -/
theorem length_headerValues_of_two {a b name : String} (ha : a ∈ headers.names) (hb : b ∈ headers.names)
    (hne : a ≠ b) (hsame_a : sameIgnoringCase a name) (hsame_b : sameIgnoringCase b name) :
    2 ≤ (headerValues headers name).length := by
  obtain ⟨first, hfirst, rfl⟩ := List.mem_map.mp ha
  obtain ⟨second, hsecond, rfl⟩ := List.mem_map.mp hb
  have hfirst : first ∈ headers.filter fun header => sameIgnoringCase header.1 name :=
    List.mem_filter.mpr ⟨hfirst, hsame_a⟩
  have hsecond : second ∈ headers.filter fun header => sameIgnoringCase header.1 name :=
    List.mem_filter.mpr ⟨hsecond, hsame_b⟩
  rw [headerValues, List.length_map]
  generalize headers.filter (fun header => sameIgnoringCase header.1 name) = alike at hfirst hsecond ⊢
  rcases alike with _ | ⟨header, _ | ⟨other, rest⟩⟩
  · simp at hfirst
  · rw [List.mem_singleton.mp hfirst, List.mem_singleton.mp hsecond] at hne
    exact absurd rfl hne
  · simp

end

section

variable {own request : Fields String}

/-- The headers of the request prevail if it spells the names that it has in common with the transport alike. -/
theorem prevails_merge (hown : Distinct own) (hrequest : Distinct request)
    (halike : ∀ a ∈ own.names, ∀ b ∈ request.names, sameIgnoringCase a b → a = b) :
    Prevails own request (own.merge request) := by
  have hnames := Fields.nodup_names_merge hown.nodup request
  intro name
  cases hset : headerValue? request name with
  | some value =>
    obtain ⟨b, hb, hget, hsame⟩ := hrequest.exists_of_headerValue? hset
    apply headerValues_eq_singleton hnames _ hsame
    · intro m hm hmatch
      rcases (Fields.mem_names_merge own request m).mp hm with hmOwn | hmRequest
      · exact halike m hmOwn b hb (same_of_same hmatch hsame)
      · exact hrequest.eq_of_same hmRequest hb (same_of_same hmatch hsame)
    · rw [Fields.get?_merge hrequest.nodup, hget]
      rfl
  | none =>
    have hunset := not_same_of_headerValue? hset
    cases hdefault : headerValue? own name with
    | some value =>
      obtain ⟨a, ha, hget, hsame⟩ := hown.exists_of_headerValue? hdefault
      have hfree : request.get? a = none :=
        (Fields.get?_eq_none_iff request a).mpr fun hmem => hunset a hmem hsame
      apply headerValues_eq_singleton hnames _ hsame
      · intro m hm hmatch
        rcases (Fields.mem_names_merge own request m).mp hm with hmOwn | hmRequest
        · exact hown.eq_of_same hmOwn ha (same_of_same hmatch hsame)
        · exact absurd hmatch (hunset m hmRequest)
      · rw [Fields.get?_merge hrequest.nodup, hfree, hget]
        rfl
    | none =>
      apply headerValues_eq_nil
      intro m hm
      rcases (Fields.mem_names_merge own request m).mp hm with hmOwn | hmRequest
      · exact not_same_of_headerValue? hdefault m hmOwn
      · exact hunset m hmRequest

theorem alike_of_prevails (hprevails : Prevails own request (own.merge request)) {a b : String}
    (ha : a ∈ own.names) (hb : b ∈ request.names) (hsame : sameIgnoringCase a b) : a = b := by
  by_contra hne
  have hself : sameIgnoringCase b b := (sameIgnoringCase_iff b b).mpr rfl
  have hmerged {n : String} (hn : n ∈ own.names ∨ n ∈ request.names) : n ∈ (own.merge request).names :=
    (Fields.mem_names_merge own request n).mpr hn
  have htwo := length_headerValues_of_two (hmerged (.inl ha)) (hmerged (.inr hb)) hne hsame hself
  have hone : (headerValues (own.merge request) b).length ≤ 1 := by
    rw [hprevails b]
    cases (headerValue? request b).or (headerValue? own b) <;> simp
  omega

end

/-- What a transport sends: the headers of the request in place of its own with the same spelling, each name once.
The request prevails whatever the case of names exactly when no name that it sets is one of the transport's in
another case. -/
theorem request_prevails_iff {t : Transport} (hconnection : t.connection ≠ .unavailable) {request : Request}
    (hown : Distinct t.headers) (hrequest : Distinct request.headers) :
    ∃ headers, (t.dispatch? request).map Dispatch.request = some { request with headers } ∧
      headers.names.Nodup ∧
      (∀ name, headers.get? name = (request.headers.get? name).or (t.headers.get? name)) ∧
      (Prevails t.headers request.headers headers ↔
        ∀ a ∈ t.headers.names, ∀ b ∈ request.headers.names, sameIgnoringCase a b → a = b) := by
  refine ⟨t.headers.merge request.headers, ?_, Fields.nodup_names_merge hown.nodup _,
    Fields.get?_merge hrequest.nodup, ?_⟩
  · rw [Transport.dispatch?]
    cases hkind : t.connection with
    | injected => rfl
    | opened => rfl
    | unavailable => exact absurd hkind hconnection
  · constructor
    · intro hprevails a ha b hb hsame
      exact alike_of_prevails hprevails ha hb hsame
    · exact prevails_merge hown hrequest

/-- A transport that asks for comma separated values unless a request asks for something else. -/
def tabular : Transport := ⟨defaultTimeout, [("accept", "text/csv"), ("Authorization", "Bearer t")], .injected⟩

/-- A request for a page that spells the common header as the transport does. -/
def pageRequest : Request :=
  ⟨"GET", "http://host/posts?limit=25", [("accept", jsonType), ("Prefer", "count=exact")], none⟩

theorem request_prevails_iff_pageRequest :
    tabular.connection ≠ .unavailable ∧ Distinct tabular.headers ∧ Distinct pageRequest.headers ∧
      ∃ headers, (tabular.dispatch? pageRequest).map Dispatch.request = some { pageRequest with headers } ∧
        Prevails tabular.headers pageRequest.headers headers := by
  have hconnection : tabular.connection ≠ .unavailable := by decide
  have hown : Distinct tabular.headers := by decide
  have hrequest : Distinct pageRequest.headers := by decide
  obtain ⟨headers, hdispatch, -, -, hprevails⟩ := request_prevails_iff hconnection hown hrequest
  refine ⟨hconnection, hown, hrequest, headers, hdispatch, hprevails.mpr ?_⟩
  decide

/-- The transport sends the header of a request for one row beside its own one of the same name. -/
theorem both_accepts_sent :
    Distinct tabular.headers ∧ Distinct oneHeaders ∧
      (∀ name ∈ tabular.headers.names ++ oneHeaders.names, ∀ c ∈ name.toList, c.toNat < 0x80) ∧
      (tabular.dispatch? ⟨"GET", "http://host/posts?id=eq.1", oneHeaders, none⟩).map Dispatch.request =
        some ⟨"GET", "http://host/posts?id=eq.1",
          [("accept", "text/csv"), ("Authorization", "Bearer t"), ("Accept", singleRowType)], none⟩ ∧
      ¬ Prevails tabular.headers oneHeaders
        [("accept", "text/csv"), ("Authorization", "Bearer t"), ("Accept", singleRowType)] := by
  refine ⟨by decide, by decide, by simp [tabular, oneHeaders, Fields.names], rfl, ?_⟩
  intro hprevails
  exact absurd (hprevails "Accept") (by decide)

end TableGateway
