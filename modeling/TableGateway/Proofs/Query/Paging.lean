import Mathlib.Data.Rat.Floor
import TableGateway.Operation.Parameters
import TableGateway.Proofs.Check.Checked
import TableGateway.Proofs.Query.Listing

/-!
The pages of a listing. A page holds the rows from its offset on, as many as there are on a page, so that the pages of
one size lie side by side and hold every row once. As many pages as the rows fill, the last of them perhaps in part,
hold all rows there are, and none of them stays empty.
-/

namespace TableGateway.Query

open TableGateway.Check TableGateway.Json TableGateway.Number

/-- The row, counted from zero, lies on the page. -/
def Pagination.Holds (p : Pagination) (row : Int) : Prop := p.offset ≤ row ∧ row < p.offset + p.perPage

/-- The number of pages that so many rows fill. -/
def pageCount (total : Nat) (perPage : Int) : Int := ⌈(total : ℚ) / perPage⌉

section

variable {data : Fields Value} {preferred name : String} {standard n : Int}

theorem one_le_of_optional (hstandard : 1 ≤ standard)
    (hfield : optional data name standard positive = .accepted n) : 1 ≤ n := by
  rcases optional_eq_accepted_iff.mp hfield with ⟨-, rfl⟩ | ⟨v, -, hpositive⟩
  · exact hstandard
  · exact (positive_eq_accepted_iff.mp hpositive).2

theorem one_le_of_renamed (hstandard : 1 ≤ standard)
    (hfield : renamed data preferred name standard positive = .accepted n) : 1 ≤ n := by
  rcases renamed_eq_accepted_iff.mp hfield with ⟨-, hoptional⟩ | ⟨v, -, hpositive⟩
  · exact one_le_of_optional hstandard hoptional
  · exact (positive_eq_accepted_iff.mp hpositive).2

end

/-- Pages are counted from one, and a page has a row at least. -/
theorem one_le_of_pagination {v : Value} {p : Pagination} (hp : Operation.pagination v = .accepted p) :
    1 ≤ p.page ∧ 1 ≤ p.perPage := by
  obtain ⟨data, -, hchecked⟩ := parameters_eq_accepted_iff.mp hp
  obtain ⟨_, perPage, hmk, hperPage, rfl⟩ := Checked.seq_eq_accepted_iff.mp hchecked
  obtain ⟨page, hpage, rfl⟩ := Checked.map_eq_accepted_iff.mp hmk
  exact ⟨one_le_of_optional (by decide) hpage, one_le_of_renamed (by decide) hperPage⟩

theorem offset_nonneg {p : Pagination} (hpage : 1 ≤ p.page) (hperPage : 1 ≤ p.perPage) : 0 ≤ p.offset :=
  Int.mul_nonneg (by omega) (by omega)

theorem intText_eq_toString (n : Int) : intText n = toString n := by
  cases n with
  | ofNat n => rfl
  | negSucc n =>
    have hsign : toString (Int.negSucc n) = "-" ++ toString (n + 1) := rfl
    apply String.toList_injective
    rw [hsign, String.toList_append, intText, String.toList_ofList]
    exact congrArg ('-' :: ·) (Nat.toList_repr ..).symm

/-- The offset and the number of rows are sent as decimal numerals, unless one of them is too long to be written. -/
theorem fields_eq (p : Pagination) :
    p.fields = if withinDigitLimit p.offset ∧ withinDigitLimit p.perPage then
        .ok [("offset", toString p.offset), ("limit", toString p.perPage)]
      else .error .integerTooLong := by
  split
  · next hlimits => rw [page_fields hlimits.1 hlimits.2, intText_eq_toString, intText_eq_toString]
  · next hlimits =>
    by_cases hoffset : withinDigitLimit p.offset
    · have hlimit : ¬ withinDigitLimit p.perPage := fun hlimit => hlimits ⟨hoffset, hlimit⟩
      rw [Pagination.fields, numeral, if_pos hoffset, numeral, if_neg hlimit]
      rfl
    · rw [Pagination.fields, numeral, if_neg hoffset]
      rfl

section

variable {perPage : Int}

/-- The page that holds a row is found by division. -/
theorem holds_iff (hperPage : 1 ≤ perPage) (page row : Int) :
    Pagination.Holds ⟨page, perPage⟩ row ↔ row / perPage + 1 = page := by
  have hdiv : row / perPage = page - 1 ↔ (page - 1) * perPage ≤ row ∧ row < (page - 1) * perPage + perPage :=
    Int.ediv_eq_iff_of_pos (by omega)
  rw [Pagination.Holds, Pagination.offset, ← hdiv]
  omega

/-- Every row lies on one page. -/
theorem existsUnique_holds (hperPage : 1 ≤ perPage) (row : Nat) :
    ∃! page : Int, 1 ≤ page ∧ Pagination.Holds ⟨page, perPage⟩ row := by
  have hquotient : 0 ≤ (row : Int) / perPage := Int.ediv_nonneg (by omega) (by omega)
  refine ⟨(row : Int) / perPage + 1, ⟨by omega, (holds_iff hperPage _ _).mpr rfl⟩, ?_⟩
  rintro page ⟨-, hholds⟩
  exact ((holds_iff hperPage page row).mp hholds).symm

/-- A page counts when it begins before the rows end. -/
theorem le_pageCount_iff (hperPage : 1 ≤ perPage) (page : Int) (total : Nat) :
    page ≤ pageCount total perPage ↔ Pagination.offset ⟨page, perPage⟩ < total := by
  have hpositive : (0 : ℚ) < perPage := by exact_mod_cast hperPage
  rw [pageCount, Int.le_ceil_iff, lt_div_iff₀ hpositive, Pagination.offset]
  norm_cast

/-- The page on which a row lies counts when the row does. -/
theorem le_pageCount_of_holds (hperPage : 1 ≤ perPage) {page : Int} {row total : Nat} (hrow : row < total)
    (hholds : Pagination.Holds ⟨page, perPage⟩ row) : page ≤ pageCount total perPage := by
  rw [le_pageCount_iff hperPage]
  have hoffset := hholds.1
  omega

/-- No page that counts stays empty: the first of its rows is there. -/
theorem exists_row_of_le_pageCount (hperPage : 1 ≤ perPage) {page : Int} {total : Nat} (hpage : 1 ≤ page)
    (hcount : page ≤ pageCount total perPage) :
    ∃ row : Nat, row < total ∧ Pagination.Holds ⟨page, perPage⟩ row := by
  have hoffset : 0 ≤ Pagination.offset ⟨page, perPage⟩ := offset_nonneg hpage hperPage
  have hbefore := (le_pageCount_iff hperPage page total).mp hcount
  obtain ⟨row, hrow⟩ := Int.eq_ofNat_of_zero_le hoffset
  refine ⟨row, by omega, ?_⟩
  rw [Pagination.Holds, hrow]
  exact ⟨Int.le_refl _, Int.lt_add_of_pos_right _ hperPage⟩

/-- The pages that count hold every row once. -/
theorem existsUnique_holds_of_lt (hperPage : 1 ≤ perPage) {row total : Nat} (hrow : row < total) :
    ∃! page : Int, (1 ≤ page ∧ page ≤ pageCount total perPage) ∧ Pagination.Holds ⟨page, perPage⟩ row := by
  obtain ⟨page, ⟨hpage, hholds⟩, hunique⟩ := existsUnique_holds hperPage row
  refine ⟨page, ⟨⟨hpage, le_pageCount_of_holds hperPage hrow hholds⟩, hholds⟩, ?_⟩
  rintro other ⟨⟨hother, -⟩, hholds⟩
  exact hunique other ⟨hother, hholds⟩

end

/-- Pages tile the rows: each of them asks for rows from a valid offset on, each row lies on one page of every size,
and the pages that so many rows fill are those that hold them. -/
theorem pages_tile_rows :
    (∀ v p, Operation.pagination v = .accepted p →
      0 ≤ p.offset ∧ 1 ≤ p.perPage ∧
        p.fields = if withinDigitLimit p.offset ∧ withinDigitLimit p.perPage then
            .ok [("offset", toString p.offset), ("limit", toString p.perPage)]
          else .error .integerTooLong) ∧
    ∀ perPage : Int, 1 ≤ perPage →
      (∀ row : Nat, ∃! page : Int, 1 ≤ page ∧ Pagination.Holds ⟨page, perPage⟩ row) ∧
      ∀ total : Nat,
        (∀ row : Nat, row < total →
          ∃! page : Int, (1 ≤ page ∧ page ≤ pageCount total perPage) ∧ Pagination.Holds ⟨page, perPage⟩ row) ∧
        ∀ page : Int, 1 ≤ page → page ≤ pageCount total perPage →
          ∃ row : Nat, row < total ∧ Pagination.Holds ⟨page, perPage⟩ row := by
  refine ⟨fun v p hp => ?_, fun perPage hperPage => ⟨existsUnique_holds hperPage, fun total => ⟨?_, ?_⟩⟩⟩
  · obtain ⟨hpage, hperPage⟩ := one_le_of_pagination hp
    exact ⟨offset_nonneg hpage hperPage, hperPage, fields_eq p⟩
  · intro row hrow
    exact existsUnique_holds_of_lt hperPage hrow
  · intro page hpage hcount
    exact exists_row_of_le_pageCount hperPage hpage hcount

theorem pages_tile_rows_thirdPage :
    Operation.pagination (.map [("page", .text " 3 "), ("perPage", .int 25)]) = .accepted ⟨3, 25⟩ ∧
      Pagination.fields ⟨3, 25⟩ = .ok [("offset", "50"), ("limit", "25")] ∧
      (∃! page : Int, 1 ≤ page ∧ Pagination.Holds ⟨page, 25⟩ 75) ∧
      (∃! page : Int, (1 ≤ page ∧ page ≤ pageCount 60 25) ∧ Pagination.Holds ⟨page, 25⟩ 59) ∧
      3 ≤ pageCount 60 25 ∧ ∃ row : Nat, row < 60 ∧ Pagination.Holds ⟨3, 25⟩ row := by
  have hp : Operation.pagination (.map [("page", .text " 3 "), ("perPage", .int 25)]) = .accepted ⟨3, 25⟩ := rfl
  have hlimits : withinDigitLimit (Pagination.offset ⟨3, 25⟩) ∧ withinDigitLimit (Pagination.perPage ⟨3, 25⟩) := by
    constructor <;> exact withinDigitLimit_of_lt 2 (by decide) (by decide)
  have hcount : 3 ≤ pageCount 60 25 := (le_pageCount_iff (by decide) 3 60).mpr (by decide)
  obtain ⟨haccepted, htiles⟩ := pages_tile_rows
  obtain ⟨-, -, hfields⟩ := haccepted _ _ hp
  obtain ⟨hevery, hpages⟩ := htiles 25 (by decide)
  obtain ⟨honce, hfilled⟩ := hpages 60
  refine ⟨hp, ?_, hevery 75, honce 59 (by decide), hcount, hfilled 3 (by decide) hcount⟩
  rw [hfields, if_pos hlimits]
  rfl

theorem toInt?_powerOfTen (zeros : Nat) : Decimal.toInt? (.finite ⟨false, 1, zeros⟩) = some (10 ^ zeros) := by
  have hplaces : (-(zeros : Int)).toNat = 0 := by omega
  have hdigits : (natDigits 1).length = 1 := by decide
  have hsize : signed false (1 * Nat.pow 10 (zeros : Int).toNat / Nat.pow 10 0) = 10 ^ zeros := by
    rw [Int.toNat_natCast, Nat.one_mul, Nat.pow_eq, Nat.pow_eq, Nat.pow_zero, Nat.div_one, signed]
    norm_cast
  rw [Decimal.toInt?, hplaces, hdigits, hsize, if_neg Nat.one_ne_zero, if_neg (by decide),
    if_pos (Nat.mod_one 1)]

/-- The size of a page has no upper bound, so that it may be too long to be written even where the offset is zero. -/
theorem longPage_not_written :
    Operation.pagination (.map [("page", .int 1), ("perPage", .decimal (.finite ⟨false, 1, 4300⟩))]) =
        .accepted ⟨1, 10 ^ 4300⟩ ∧
      Pagination.offset ⟨1, 10 ^ 4300⟩ = 0 ∧ Pagination.fields ⟨1, 10 ^ 4300⟩ = .error .integerTooLong := by
  have hread : Decimal.toInt? (.finite ⟨false, 1, 4300⟩) = some (10 ^ 4300) := toInt?_powerOfTen 4300
  have hsize : integer (.decimal (.finite ⟨false, 1, 4300⟩)) = .accepted (10 ^ 4300) := by rw [integer, hread]
  have hlong : ¬ withinDigitLimit (10 ^ 4300) := not_withinDigitLimit_pow (by decide)
  refine ⟨Checked.seq_eq_accepted_iff.mpr ⟨.mk 1, 10 ^ 4300, rfl, ?_, rfl⟩, Int.zero_mul _, ?_⟩
  · have hpositive : positive (.decimal (.finite ⟨false, 1, 4300⟩)) = .accepted (10 ^ 4300) :=
      positive_eq_accepted_iff.mpr ⟨hsize, Int.pow_pos (by decide)⟩
    exact renamed_eq_accepted_iff.mpr (.inr ⟨_, rfl, hpositive⟩)
  · rw [fields_eq, if_neg fun hlimits => hlong hlimits.2]

end TableGateway.Query
