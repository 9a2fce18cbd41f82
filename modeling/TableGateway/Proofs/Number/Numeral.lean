import Mathlib.Data.Nat.Digits.Defs
import TableGateway.Proofs.Json.Grammar

/-!
Integer numerals as they may stand in a header, stated without a reader: a sign or none, and digits of any script
behind it, with single underscores between them. The first digit counts most, and zeros before the others count
towards the limit. The reader takes exactly these numerals, and among them is every number as it is printed.
-/

namespace TableGateway.Number

open TableGateway.Json TableGateway.Text

/-- Digits with the values that they have, an underscore between two of them or none. -/
inductive DigitRun : List Char → List Nat → Prop where
  | last {c : Char} {v : Nat} (hc : digitValue? c = some v) : DigitRun [c] [v]
  | next {c : Char} {v : Nat} {cs : List Char} {values : List Nat} (hc : digitValue? c = some v)
      (hrest : DigitRun cs values) : DigitRun (c :: cs) (v :: values)
  | apart {c : Char} {v : Nat} {cs : List Char} {values : List Nat} (hc : digitValue? c = some v)
      (hrest : DigitRun cs values) : DigitRun (c :: '_' :: cs) (v :: values)

/-- The integer that a numeral stands for. -/
inductive Denotes : List Char → Int → Prop where
  | numeral {sign cs : List Char} {negative : Bool} {values : List Nat} (hsign : Sign sign negative)
      (hrun : DigitRun cs values) (hlimit : values.length ≤ digitLimit) :
    Denotes (sign ++ cs) (signed negative (Nat.ofDigits 10 values.reverse))

section

variable {cs : List Char} {values : List Nat}

/-- A run begins with a digit. -/
theorem DigitRun.exists_cons (hrun : DigitRun cs values) : ∃ c rest, cs = c :: rest ∧ (digitValue? c).isSome := by
  cases hrun with
  | last hc => exact ⟨_, _, rfl, by rw [hc]; rfl⟩
  | next hc hrest => exact ⟨_, _, rfl, by rw [hc]; rfl⟩
  | apart hc hrest => exact ⟨_, _, rfl, by rw [hc]; rfl⟩

theorem digitRun_of_digitRun? (hread : digitRun? cs = some values) : DigitRun cs values := by
  fun_induction digitRun? cs generalizing values with
  | case1 => cases hread
  | case2 c =>
    obtain ⟨v, hv, rfl⟩ := Option.map_eq_some_iff.mp hread
    exact .last hv
  | case3 c rest ih =>
    obtain ⟨v, hv, hread⟩ := Option.bind_eq_some_iff.mp hread
    obtain ⟨more, hmore, hread⟩ := Option.bind_eq_some_iff.mp hread
    cases hread
    exact .apart hv (ih hmore)
  | case4 c rest _ _ ih =>
    obtain ⟨v, hv, hread⟩ := Option.bind_eq_some_iff.mp hread
    obtain ⟨more, hmore, hread⟩ := Option.bind_eq_some_iff.mp hread
    cases hread
    exact .next hv (ih hmore)

theorem digitRun?_of_digitRun (hrun : DigitRun cs values) : digitRun? cs = some values := by
  induction hrun with
  | last hc => rw [digitRun?, hc, Option.map_some]
  | next hc hrest ih =>
    -- What follows begins with a digit, which no underscore is.
    obtain ⟨d, rest, rfl, hd⟩ := hrest.exists_cons
    have hmark : d ≠ '_' := by
      rintro rfl
      exact absurd hd (by decide)
    rw [digitRun?, hc, ih]
    · rfl
    · nofun
    · intro more heq
      exact hmark (List.cons.inj heq).1
  | apart hc hrest ih =>
    rw [digitRun?, hc, ih]
    rfl

/-- The values of digits, taken in from the left, make up the number of which they are the decimal digits. -/
theorem ofDigitValues_eq (values : List Nat) : ofDigitValues values = Nat.ofDigits 10 values.reverse := by
  rw [Nat.ofDigits_eq_foldr, List.foldr_reverse, ofDigitValues]
  congr
  funext n v
  exact Nat.add_comm (10 * n) v

/-- A sign before a run is taken off, and nothing else is: no digit is a sign. -/
theorem splitSign_of_digitRun {sign : List Char} {negative : Bool} (hsign : Sign sign negative)
    (hrun : DigitRun cs values) : splitSign (sign ++ cs) = (negative, cs) := by
  cases hsign with
  | plus => rfl
  | minus => rfl
  | none =>
    obtain ⟨c, rest, rfl, hc⟩ := hrun.exists_cons
    have hminus : c ≠ '-' := by
      rintro rfl
      exact absurd hc (by decide)
    have hplus : c ≠ '+' := by
      rintro rfl
      exact absurd hc (by decide)
    rw [List.nil_append, splitSign]
    · intro more heq
      exact hminus (List.cons.inj heq).1
    · intro more heq
      exact hplus (List.cons.inj heq).1

end

theorem sign_of_splitSign (cs : List Char) :
    ∃ sign, Sign sign (splitSign cs).1 ∧ cs = sign ++ (splitSign cs).2 := by
  fun_cases splitSign cs with
  | case1 rest => exact ⟨['-'], .minus, rfl⟩
  | case2 rest => exact ⟨['+'], .plus, rfl⟩
  | case3 rest => exact ⟨[], .none, rfl⟩

/-- The numerals that are read, with the integers that they are read as. -/
theorem integer?_eq_some_iff {cs : List Char} {n : Int} : integer? cs = some n ↔ Denotes cs n := by
  constructor
  · intro hread
    obtain ⟨sign, hsign, hcs⟩ := sign_of_splitSign cs
    simp only [integer?] at hread
    split at hread
    · cases hread
    · next values hrun =>
      split at hread
      · next hlimit =>
        have hdenotes := Denotes.numeral hsign (digitRun_of_digitRun? hrun) hlimit
        rw [← hcs, ← ofDigitValues_eq] at hdenotes
        rwa [← Option.some.inj hread]
      · cases hread
  · rintro ⟨hsign, hrun, hlimit⟩
    rw [integer?, splitSign_of_digitRun hsign hrun]
    simp only [digitRun?_of_digitRun hrun, if_pos hlimit, ofDigitValues_eq]

theorem digitValue?_digitChar {v : Nat} (hv : v < 10) : digitValue? (Nat.digitChar v) = some v := by
  have hall : ∀ d : Fin 10, digitValue? (Nat.digitChar d) = some d.val := by decide
  exact hall ⟨v, hv⟩

theorem DigitRun.append {cs : List Char} {values : List Nat} (hrun : DigitRun cs values) {c : Char} {v : Nat}
    (hc : digitValue? c = some v) : DigitRun (cs ++ [c]) (values ++ [v]) := by
  induction hrun with
  | last hfirst => exact .next hfirst (.last hc)
  | next hfirst _ ih => exact .next hfirst ih
  | apart hfirst _ ih => exact .apart hfirst ih

/-- The digits of a number as they are printed, the last one apart from the others. -/
theorem digitRun_natDigits (n : Nat) :
    ∃ values, DigitRun (natDigits n) values ∧ values.length = (natDigits n).length ∧
      Nat.ofDigits 10 values.reverse = n := by
  induction n using Nat.strongRecOn with
  | ind n ih =>
    rw [natDigits, Nat.toDigits_eq_if (by omega)]
    split
    · next hsmall => exact ⟨[n], .last (digitValue?_digitChar hsmall), rfl, by simp⟩
    · next hlarge =>
      obtain ⟨values, hrun, hlength, hvalue⟩ := ih (n / 10) (by omega)
      have hlast : digitValue? (Nat.digitChar (n % 10)) = some (n % 10) :=
        digitValue?_digitChar (Nat.mod_lt n (by omega))
      refine ⟨values ++ [n % 10], hrun.append hlast, ?_, ?_⟩
      · rw [List.length_append, hlength, List.length_append]
        rfl
      · rw [List.reverse_append, List.reverse_singleton, List.singleton_append, Nat.ofDigits_cons, hvalue]
        omega

/-- A number within the digit limit is denoted by its own digits. -/
theorem denotes_natDigits {n : Nat} (hn : n < 10 ^ digitLimit) : Denotes (natDigits n) n := by
  obtain ⟨values, hrun, hlength, hvalue⟩ := digitRun_natDigits n
  have hlimit : values.length ≤ digitLimit := by
    rw [hlength, natDigits]
    exact (Nat.length_toDigits_le_iff (by omega) (by decide)).mpr hn
  have hdenotes := Denotes.numeral .none hrun hlimit
  rwa [hvalue] at hdenotes

end TableGateway.Number
