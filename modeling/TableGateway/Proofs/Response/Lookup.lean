import TableGateway.Proofs.Text.Case
import TableGateway.Response

/-!
Headers are looked up without regard to case. The one that is found is the first of its name in any spelling, whatever
value it has, so that neither another spelling of names nor headers of other names have an influence on what is found.
-/

namespace TableGateway

open TableGateway.Text

/-- The names differ in the case of the letters A to Z at most. -/
def Alike (a b : String) : Prop := a.toList.map Char.toLower = b.toList.map Char.toLower

def AsciiNames (headers : Fields String) : Prop := ∀ n ∈ headers.names, Ascii n

instance (a b : String) : Decidable (Alike a b) := inferInstanceAs (Decidable (_ = _))

instance (headers : Fields String) : Decidable (AsciiNames headers) := inferInstanceAs (Decidable (∀ n ∈ _, _))

/-- The value stands in the first header of the name, however that is spelt. -/
def FirstAlike (headers : Fields String) (name value : String) : Prop :=
  ∃ before n after, headers = before ++ (n, value) :: after ∧ Alike n name ∧
    ∀ header ∈ before, ¬ Alike header.1 name

/-- The second headers are the first ones with their names in another spelling, and with headers of other names
added. -/
inductive Varied (name : String) : Fields String → Fields String → Prop where
  | nil : Varied name [] []
  | respelt {a b value : String} {headers others : Fields String} (halike : Alike a b)
      (hrest : Varied name headers others) : Varied name ((a, value) :: headers) ((b, value) :: others)
  | added {n value : String} {headers others : Fields String} (hother : ¬ Alike n name)
      (hrest : Varied name headers others) : Varied name headers ((n, value) :: others)

theorem sameIgnoringCase_iff_alike {a b : String} (ha : Ascii a) (hb : Ascii b) :
    sameIgnoringCase a b ↔ Alike a b :=
  sameIgnoringCase_iff_of_ascii ha hb

section

variable {headers : Fields String} {name : String}

theorem headerValue?_cons (header : String × String) (rest : Fields String) (name : String) :
    headerValue? (header :: rest) name =
      if sameIgnoringCase header.1 name then some header.2 else headerValue? rest name := by
  rw [headerValue?, List.find?_cons]
  cases sameIgnoringCase header.1 name <;> rfl

/-- What is looked up stands in the first header of the name. -/
theorem headerValue?_eq_some_iff (hheaders : AsciiNames headers) (hname : Ascii name) {value : String} :
    headerValue? headers name = some value ↔ FirstAlike headers name value := by
  have hsame : ∀ header ∈ headers, sameIgnoringCase header.1 name ↔ Alike header.1 name := fun header hheader =>
    sameIgnoringCase_iff_alike (hheaders header.1 (List.mem_map_of_mem hheader)) hname
  constructor
  · intro hfound
    obtain ⟨⟨n, v⟩, hfind, rfl⟩ := Option.map_eq_some_iff.mp hfound
    obtain ⟨halike, before, after, rfl, hbefore⟩ := List.find?_eq_some_iff_append.mp hfind
    refine ⟨before, n, after, rfl, (hsame _ (by simp)).mp halike, fun header hheader hmatch => ?_⟩
    have hskipped := hbefore header hheader
    rw [(hsame header (List.mem_append_left _ hheader)).mpr hmatch] at hskipped
    cases hskipped
  · rintro ⟨before, n, after, rfl, halike, hbefore⟩
    have hfind : (before ++ (n, value) :: after).find? (fun header => sameIgnoringCase header.1 name) =
        some (n, value) := by
      refine List.find?_eq_some_iff_append.mpr
        ⟨(hsame _ (by simp)).mpr halike, before, after, rfl, fun header hheader => ?_⟩
      rw [Bool.not_eq_true', Bool.eq_false_iff]
      exact fun hmatch => hbefore header hheader ((hsame header (List.mem_append_left _ hheader)).mp hmatch)
    rw [headerValue?, hfind, Option.map_some]

/-- Nothing is found just when no header has the name. -/
theorem headerValue?_eq_none_iff (hheaders : AsciiNames headers) (hname : Ascii name) :
    headerValue? headers name = none ↔ ∀ n ∈ headers.names, ¬ Alike n name := by
  rw [headerValue?, Option.map_eq_none_iff, List.find?_eq_none]
  constructor
  · intro hnone n hn halike
    obtain ⟨header, hheader, rfl⟩ := List.mem_map.mp hn
    exact hnone header hheader ((sameIgnoringCase_iff_alike (hheaders _ hn) hname).mpr halike)
  · intro hnone header hheader hsame
    have hn : header.1 ∈ headers.names := List.mem_map_of_mem hheader
    exact hnone header.1 hn ((sameIgnoringCase_iff_alike (hheaders _ hn) hname).mp hsame)

/-- Neither another spelling of names nor headers of other names change what is found. -/
theorem headerValue?_of_varied {others : Fields String} {respelt : String} (hvaried : Varied name headers others)
    (hheaders : AsciiNames headers) (hothers : AsciiNames others) (hname : Ascii name) (hrespelt : Ascii respelt)
    (halike : Alike name respelt) : headerValue? headers name = headerValue? others respelt := by
  induction hvaried with
  | nil => rfl
  | @respelt a b value headers others hab hrest ih =>
    obtain ⟨ha, hheaders⟩ := List.forall_mem_cons.mp hheaders
    obtain ⟨hb, hothers⟩ := List.forall_mem_cons.mp hothers
    have hsame : sameIgnoringCase a name ↔ sameIgnoringCase b respelt := by
      rw [sameIgnoringCase_iff_alike ha hname, sameIgnoringCase_iff_alike hb hrespelt, Alike, Alike, hab, halike]
    rw [headerValue?_cons, headerValue?_cons, ih hheaders hothers]
    simp only [hsame]
  | @added n value headers others hother hrest ih =>
    obtain ⟨hn, hothers⟩ := List.forall_mem_cons.mp hothers
    have hskipped : ¬ sameIgnoringCase n respelt := by
      rw [sameIgnoringCase_iff_alike hn hrespelt]
      exact fun hmatch => hother (hmatch.trans halike.symm)
    rw [headerValue?_cons, if_neg hskipped]
    exact ih hheaders hothers

end

end TableGateway
