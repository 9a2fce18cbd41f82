import Mathlib.Data.List.Basic
import TableGateway.Text.Case

/-!
The case of texts. In ASCII only the letters A to Z change. Outside of it there are characters too whose upper case has
letters of ASCII, like the ligatures and the long s, but none of these is itself in the upper case of another. So a text
that is in ASCII once it has been put in upper case twice was so after the first time already.
-/

namespace TableGateway.Text

def Ascii (s : String) : Prop := ∀ c ∈ s.toList, c.toNat < 0x80

instance (s : String) : Decidable (Ascii s) := List.decidableBAll _ _

theorem lowerAfter_of_ascii {cs : List Char} (hcs : ∀ c ∈ cs, c.toNat < 0x80) (before : List Char) :
    lowerAfter before cs = cs.map Char.toLower := by
  induction cs generalizing before with
  | nil => rfl
  | cons c cs ih =>
    obtain ⟨hc, hrest⟩ := List.forall_mem_cons.mp hcs
    have hsigma : c ≠ 'Σ' := by
      rintro rfl
      exact absurd hc (by decide)
    rw [lowerAfter, if_neg hsigma, lowerChar, if_pos hc, ih hrest]
    rfl

theorem sameIgnoringCase_iff (a b : String) : sameIgnoringCase a b ↔ lower a.toList = lower b.toList := by
  rw [sameIgnoringCase, beq_iff_eq]

/-- Names in ASCII, as those of headers are, differ by the case of the letters A to Z at most. -/
theorem sameIgnoringCase_iff_of_ascii {a b : String} (ha : Ascii a) (hb : Ascii b) :
    sameIgnoringCase a b ↔ a.toList.map Char.toLower = b.toList.map Char.toLower := by
  rw [sameIgnoringCase_iff, lower, lower, lowerAfter_of_ascii ha, lowerAfter_of_ascii hb]

theorem same_of_same {a b name : String} (ha : sameIgnoringCase a name) (hb : sameIgnoringCase b name) :
    sameIgnoringCase a b := by
  rw [sameIgnoringCase_iff] at ha hb ⊢
  exact ha.trans hb.symm

/-- The characters outside ASCII that have characters of ASCII in their upper case. -/
def intoAscii : List Nat :=
  [0xDF, 0x131, 0x149, 0x17F, 0x1F0, 0x1E96, 0x1E97, 0x1E98, 0x1E99, 0x1E9A, 0xFB00, 0xFB01, 0xFB02, 0xFB03, 0xFB04,
   0xFB05, 0xFB06]

/-- What the tables say of a character in the upper case of another. -/
def Settled (code image : Nat) : Prop :=
  image.isValidChar ∧ image ∉ intoAscii ∧
    (image < 0x80 → code ∈ intoAscii ∧ (Char.ofNat image).toUpper = Char.ofNat image)

instance (code image : Nat) : Decidable (Settled code image) := inferInstanceAs (Decidable (_ ∧ _ ∧ _))

theorem settled_expansions : ∀ entry ∈ upperExpansions, entry.2 ≠ [] ∧ ∀ image ∈ entry.2, Settled entry.1 image := by
  decide +kernel

/-- Most runs lead to characters that lie outside ASCII and apart from those that would lead into it. -/
theorem settled_runs : ∀ run ∈ upperRuns,
    (run.last + run.distance < 0xD800 ∨ 0xDFFF < run.first + run.distance ∧ run.last + run.distance < 0x110000) ∧
      (∀ code ∈ intoAscii, code < run.first + run.distance ∨ run.last + run.distance < code) ∧
      (0x80 ≤ run.first + run.distance ∨
        run.first = run.last ∧ Settled run.first (run.first + run.distance).toNat) := by
  decide +kernel

theorem mapped_intoAscii : ∀ code ∈ intoAscii, (∃ entry ∈ upperExpansions, entry.1 = code) ∨
    ∃ run ∈ upperRuns, run.covers (Char.ofNat code) := by
  decide +kernel

theorem toUpper_ascii {c : Char} (hc : c.toNat < 0x80) :
    c.toUpper.toNat < 0x80 ∧ c.toUpper.toUpper = c.toUpper := by
  have hall : ∀ n : Fin 0x80, (Char.ofNat n.val).toUpper.toNat < 0x80 ∧
      (Char.ofNat n.val).toUpper.toUpper = (Char.ofNat n.val).toUpper := by decide +kernel
  have hchar := hall ⟨c.toNat, hc⟩
  rwa [Char.ofNat_toNat] at hchar

theorem toNat_ofNat {n : Nat} (hn : n.isValidChar) : (Char.ofNat n).toNat = n := by
  rw [Char.ofNat, dif_pos hn]
  rfl

/-- A character has several images, or one at a distance, or stays. -/
theorem CaseMapping.image_cases (mapping : CaseMapping) (c : Char) :
    (∃ images, (c.toNat, images) ∈ mapping.expansions ∧ mapping.image c = images.map Char.ofNat) ∨
      (∃ run ∈ mapping.runs, run.covers c ∧
        mapping.image c = [Char.ofNat (Int.toNat (c.toNat + run.distance))]) ∨
      (∀ entry ∈ mapping.expansions, entry.1 ≠ c.toNat) ∧ (∀ run ∈ mapping.runs, ¬ run.covers c) ∧
        mapping.image c = [c] := by
  rw [CaseMapping.image]
  cases hentry : mapping.expansions.lookup c.toNat with
  | some images =>
    obtain ⟨before, after, hexpansions, -⟩ := List.lookup_eq_some_iff.mp hentry
    left
    exact ⟨images, by simp [hexpansions], rfl⟩
  | none =>
    cases hrun : mapping.runs.find? (·.covers c) with
    | some run =>
      have hcovers : run.covers c := by simpa using List.find?_some hrun
      exact .inr (.inl ⟨run, List.mem_of_find?_eq_some hrun, hcovers, rfl⟩)
    | none =>
      refine .inr (.inr ⟨fun entry hmem heq => ?_, List.find?_eq_none.mp hrun, rfl⟩)
      have hne := List.lookup_eq_none_iff.mp hentry entry hmem
      simp [heq] at hne

/-- What a run leads to. -/
theorem settled_of_covers {run : CaseRun} (hrun : run ∈ upperRuns) {c : Char} (hcovers : run.covers c) :
    Settled c.toNat (Int.toNat (c.toNat + run.distance)) := by
  obtain ⟨hvalid, hunmoved, hascii⟩ := settled_runs run hrun
  simp only [CaseRun.covers, Bool.and_eq_true, decide_eq_true_eq] at hcovers
  obtain ⟨⟨hfirst, hlast⟩, -⟩ := hcovers
  rcases hascii with houtside | ⟨hsingle, hsettled⟩
  · refine ⟨?_, fun hmem => ?_, fun hlow => ?_⟩
    · rw [Nat.isValidChar]
      omega
    · have hapart := hunmoved _ hmem
      omega
    · omega
  · have hcode : run.first = c.toNat := by omega
    rwa [hcode] at hsettled

theorem settled_of_mem {c d : Char} (hc : ¬ c.toNat < 0x80) (hd : d ∈ upperChar c) : Settled c.toNat d.toNat := by
  rw [upperChar, if_neg hc] at hd
  rcases upperMapping.image_cases c with ⟨images, hentry, himage⟩ | ⟨run, hrun, hcovers, himage⟩ | ⟨hno, hnone, himage⟩
  · rw [himage] at hd
    obtain ⟨image, hmem, rfl⟩ := List.mem_map.mp hd
    have hsettled := (settled_expansions _ hentry).2 image hmem
    rwa [toNat_ofNat hsettled.1]
  · rw [himage] at hd
    obtain rfl := List.mem_singleton.mp hd
    have hsettled := settled_of_covers hrun hcovers
    rwa [toNat_ofNat hsettled.1]
  · rw [himage] at hd
    obtain rfl := List.mem_singleton.mp hd
    refine ⟨d.valid, fun hmem => ?_, fun hlow => absurd hlow hc⟩
    rcases mapped_intoAscii _ hmem with ⟨entry, hentry, hcode⟩ | ⟨run, hrun, hcovers⟩
    · exact hno entry hentry hcode
    · rw [Char.ofNat_toNat] at hcovers
      exact hnone run hrun hcovers

theorem exists_mem_upperChar (c : Char) : ∃ d, d ∈ upperChar c := by
  by_cases hc : c.toNat < 0x80
  · exact ⟨c.toUpper, by rw [upperChar, if_pos hc]; exact List.mem_singleton_self _⟩
  · rw [upperChar, if_neg hc]
    rcases upperMapping.image_cases c with ⟨images, hentry, himage⟩ | ⟨run, -, -, himage⟩ | ⟨-, -, himage⟩
    · obtain ⟨image, hmem⟩ := List.exists_mem_of_ne_nil _ (settled_expansions _ hentry).1
      exact ⟨Char.ofNat image, himage ▸ List.mem_map_of_mem hmem⟩
    · exact ⟨_, himage ▸ List.mem_singleton_self _⟩
    · exact ⟨c, himage ▸ List.mem_singleton_self _⟩

/-- What is in ASCII in an upper case stays when it is put in upper case again. -/
theorem upperChar_of_mem {c d : Char} (hd : d ∈ upperChar c) (hascii : d.toNat < 0x80) : upperChar d = [d] := by
  have hfixed : d.toUpper = d := by
    by_cases hc : c.toNat < 0x80
    · rw [upperChar, if_pos hc] at hd
      rw [List.mem_singleton.mp hd]
      exact (toUpper_ascii hc).2
    · have hupper := ((settled_of_mem hc hd).2.2 hascii).2
      rwa [Char.ofNat_toNat] at hupper
  rw [upperChar, if_pos hascii, hfixed]

/-- What is outside ASCII in an upper case does not come into it. -/
theorem ascii_of_mem {c d : Char} (hd : d ∈ upperChar c) (hascii : ∀ e ∈ upperChar d, e.toNat < 0x80) :
    d.toNat < 0x80 := by
  by_contra houtside
  obtain ⟨e, he⟩ := exists_mem_upperChar d
  have hinto : d.toNat ∈ intoAscii := ((settled_of_mem houtside he).2.2 (hascii e he)).1
  by_cases hc : c.toNat < 0x80
  · rw [upperChar, if_pos hc] at hd
    rw [List.mem_singleton.mp hd] at houtside
    exact houtside (toUpper_ascii hc).1
  · exact (settled_of_mem hc hd).2.1 hinto

/-- A text that is in ASCII in the end does not change when it is put in upper case a second time. -/
theorem upper_upper_of_ascii {cs : List Char} (hascii : ∀ c ∈ upper (upper cs), c.toNat < 0x80) :
    upper (upper cs) = upper cs := by
  have hstays : ∀ d ∈ upper cs, upperChar d = [d] := by
    intro d hd
    obtain ⟨c, -, hdc⟩ := List.mem_flatMap.mp hd
    have hlow : d.toNat < 0x80 := ascii_of_mem hdc fun e he => hascii e (List.mem_flatMap.mpr ⟨d, hd, he⟩)
    exact upperChar_of_mem hdc hlow
  exact (List.flatMap_congr hstays).trans (List.flatMap_singleton' _)

end TableGateway.Text
