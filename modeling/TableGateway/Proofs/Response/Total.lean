import TableGateway.Proofs.Number.Numeral
import TableGateway.Proofs.Text.Trimmed
import TableGateway.Response

/-!
The total that a header tells. Whatever stands before the last slash is passed over, and what stands behind it is
read when it is a numeral between blanks. Any other header is refused as a whole, and so is one that is missing or
empty.
-/

namespace TableGateway

open TableGateway.Number TableGateway.Text

/-- The part of a header that tells the total: what stands behind its last slash, without the blanks around it. -/
def TellsTotal (header t : List Char) : Prop := ∃ last, BehindLast '/' header last ∧ Trimmed isBlank last t

theorem tellsTotal_iff {header t : List Char} : TellsTotal header t ↔ t = trim isBlank (afterLast '/' header) := by
  constructor
  · rintro ⟨last, hlast, ht⟩
    rw [afterLast_of_behindLast hlast, trim_of_trimmed ht]
  · rintro rfl
    exact ⟨_, afterLast_eq_iff.mp rfl, trimmed_trim isBlank _⟩

theorem isBlank_of_isDigit {c : Char} (hc : c.isDigit) : isBlank c = false := by
  simp only [Char.isDigit, ge_iff_le, Bool.and_eq_true, decide_eq_true_eq, UInt32.le_iff_toNat_le] at hc
  have hlow : 48 ≤ c.toNat := hc.1
  have hhigh : c.toNat ≤ 57 := hc.2
  simp only [isBlank, isWhiteSpace, Ranges.contains, whiteSpace, List.any_cons, List.any_nil, Bool.or_eq_false_iff,
    Bool.and_eq_false_iff, decide_eq_false_iff_not, and_true]
  omega

/-- A number that is printed behind a slash tells the total. -/
theorem tellsTotal_natDigits (before : List Char) (n : Nat) :
    TellsTotal (before ++ '/' :: natDigits n) (natDigits n) := by
  have hdigit : ∀ c ∈ natDigits n, c.isDigit := fun c hc => Nat.isDigit_of_mem_toDigits (by omega) (by omega) hc
  have hslash : '/' ∉ natDigits n := by
    intro hmem
    exact absurd (hdigit '/' hmem) (by decide)
  refine ⟨natDigits n, ⟨hslash, .inr ⟨before, rfl⟩⟩, ⟨[], [], ?_, nofun, nofun⟩, ?_, ?_⟩
  · rw [List.nil_append, List.append_nil]
  · exact fun c hc => isBlank_of_isDigit (hdigit c (List.mem_of_mem_head? hc))
  · exact fun c hc => isBlank_of_isDigit (hdigit c (List.mem_of_mem_getLast? hc))

section

variable {name header : String} {t : List Char}

theorem totalOf?_eq (ht : TellsTotal header.toList t) : totalOf? header = integer? t := by
  rw [totalOf?, tellsTotal_iff.mp ht]

theorem readTotal_eq (hheader : header ≠ "") (ht : TellsTotal header.toList t) :
    readTotal name (some header) =
      match integer? t with
      | some n => .ok n
      | none => .error (.malformedHeader (.text name) (.text header)) := by
  have hfull : header.isEmpty = false := by simpa using hheader
  simp only [readTotal, hfull, totalOf?_eq ht]
  rfl

theorem readTotal_eq_ok_iff (hheader : header ≠ "") (ht : TellsTotal header.toList t) {n : Int} :
    readTotal name (some header) = .ok n ↔ Denotes t n := by
  rw [readTotal_eq hheader ht, ← integer?_eq_some_iff]
  cases integer? t <;> simp

theorem readTotal_malformed (hheader : header ≠ "") (ht : TellsTotal header.toList t) (hbad : ∀ n, ¬ Denotes t n) :
    readTotal name (some header) = .error (.malformedHeader (.text name) (.text header)) := by
  rw [readTotal_eq hheader ht]
  cases hread : integer? t with
  | some n => exact absurd (integer?_eq_some_iff.mp hread) (hbad n)
  | none => rfl

end

/-- A header tells a total exactly when a numeral stands behind its last slash, and then tells the integer of that
numeral. A header in which something else stands there is refused, shown in full with its name. A number that is
printed behind a slash is read back, whatever stands before the slash. -/
theorem readTotal_exact (name : String) :
    (∀ header : String, header ≠ "" →
      ∃ t, (∀ other, TellsTotal header.toList other ↔ other = t) ∧
        (∀ n, readTotal name (some header) = .ok n ↔ Denotes t n) ∧
        ((∀ n, ¬ Denotes t n) →
          readTotal name (some header) = .error (.malformedHeader (.text name) (.text header)))) ∧
      (∀ (before : String) (n : Nat), n < 10 ^ digitLimit →
        readTotal name (some (before ++ "/" ++ toString n)) = .ok n) ∧
      ∀ header, header = none ∨ header = some "" → readTotal name header = .error (.missingHeader (.text name)) := by
  refine ⟨fun header hheader => ?_, fun before n hn => ?_, ?_⟩
  · have ht : TellsTotal header.toList (trim isBlank (afterLast '/' header.toList)) := tellsTotal_iff.mpr rfl
    exact ⟨_, fun other => tellsTotal_iff, fun n => readTotal_eq_ok_iff hheader ht, readTotal_malformed hheader ht⟩
  · have hheader : before ++ "/" ++ toString n ≠ "" := by simp
    have htext : (before ++ "/" ++ toString n).toList = before.toList ++ '/' :: natDigits n := by
      rw [String.toList_append, String.toList_append, Nat.toString_eq_repr, Nat.toList_repr, List.append_assoc]
      rfl
    have ht : TellsTotal (before ++ "/" ++ toString n).toList (natDigits n) := by
      rw [htext]
      exact tellsTotal_natDigits before.toList n
    exact (readTotal_eq_ok_iff hheader ht).mpr (denotes_natDigits hn)
  · rintro header (rfl | rfl)
    · rfl
    · rfl

/-- A header of an unusual form: a second slash, a no-break space, a plus sign, Persian digits and an underscore. -/
def looseHeader : String := "rows/0-24/\u00a0+۳_۱۹ "

theorem readTotal_exact_looseHeader :
    looseHeader ≠ "" ∧ TellsTotal looseHeader.toList "+۳_۱۹".toList ∧ Denotes "+۳_۱۹".toList 319 ∧
      readTotal contentRange (some looseHeader) = .ok 319 ∧
      (∀ n, ¬ Denotes ['*'] n) ∧
      readTotal contentRange (some "0-24/*") = .error (.malformedHeader (.text contentRange) (.text "0-24/*")) ∧
      readTotal contentRange (some ("0-24" ++ "/" ++ toString 319)) = .ok 319 := by
  obtain ⟨hread, hprinted, -⟩ := readTotal_exact contentRange
  have htells : TellsTotal looseHeader.toList "+۳_۱۹".toList := tellsTotal_iff.mpr (by decide)
  have hrun : DigitRun "۳_۱۹".toList [3, 1, 9] := .apart (by decide) (.next (by decide) (.last (by decide)))
  have hdenotes : Denotes "+۳_۱۹".toList 319 := .numeral .plus hrun (by decide)
  have hstar : ∀ n, ¬ Denotes ['*'] n := by
    intro n hn
    rw [← integer?_eq_some_iff] at hn
    exact absurd hn nofun
  obtain ⟨t, hunique, hok, -⟩ := hread looseHeader (by decide)
  obtain rfl := (hunique _).mp htells
  obtain ⟨t, hunique, -, hrefused⟩ := hread "0-24/*" (by decide)
  obtain rfl := (hunique ['*']).mp (tellsTotal_iff.mpr (by decide))
  have hlimit : 319 < 10 ^ digitLimit := calc
    319 < 10 ^ 3 := by decide
    _ ≤ 10 ^ digitLimit := Nat.pow_le_pow_right (by decide) (by decide)
  exact ⟨by decide, htells, hdenotes, (hok 319).mpr hdenotes, hstar, hrefused hstar, hprinted "0-24" 319 hlimit⟩

end TableGateway
