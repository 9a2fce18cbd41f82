import Mathlib.Data.List.TakeWhile
import TableGateway.Text.Blank
import TableGateway.Text.Split

/-!
Parts of a text, told apart by how they lie in it: the text behind its last mark, and the text without what is
trimmed around it. Both are there in every text, and there is only one of each.
-/

namespace TableGateway.Text

/-- The text behind the last mark of another one, which is all of it when there is no mark. -/
def BehindLast (mark : Char) (cs last : List Char) : Prop :=
  mark ∉ last ∧ (cs = last ∨ ∃ before, cs = before ++ mark :: last)

/-- A text between characters of a class, with which it neither begins nor ends. -/
structure Trimmed (drop : Char → Bool) (cs inner : List Char) : Prop where
  between : ∃ left right, cs = left ++ inner ++ right ∧ (∀ c ∈ left, drop c) ∧ ∀ c ∈ right, drop c
  first : ∀ c ∈ inner.head?, drop c = false
  last : ∀ c ∈ inner.getLast?, drop c = false

section

variable {mark : Char} {cs last : List Char}

theorem exists_behindLast (mark : Char) (cs : List Char) : ∃ last, BehindLast mark cs last := by
  by_cases hmem : mark ∈ cs
  · obtain ⟨after, before, heq, hafter⟩ := List.eq_append_cons_of_mem (List.mem_reverse.mpr hmem)
    refine ⟨after.reverse, fun hmark => hafter (List.mem_reverse.mp hmark), .inr ⟨before.reverse, ?_⟩⟩
    rw [← List.reverse_reverse cs, heq]
    simp
  · exact ⟨cs, hmem, .inl rfl⟩

theorem afterLast_of_behindLast (hlast : BehindLast mark cs last) : afterLast mark cs = last := by
  obtain ⟨hmark, hcs⟩ := hlast
  have hkept : ∀ c ∈ last.reverse, (c != mark) = true := by
    intro c hc
    rw [bne_iff_ne]
    rintro rfl
    exact hmark (List.mem_reverse.mp hc)
  rcases hcs with rfl | ⟨before, rfl⟩
  · rw [afterLast, List.takeWhile_eq_self_iff.mpr hkept, List.reverse_reverse]
  · have hreverse : (before ++ mark :: last).reverse = last.reverse ++ mark :: before.reverse := by simp
    rw [afterLast, hreverse, List.takeWhile_append_of_pos hkept, List.takeWhile_cons_of_neg (by simp),
      List.append_nil, List.reverse_reverse]

theorem afterLast_eq_iff : afterLast mark cs = last ↔ BehindLast mark cs last := by
  constructor
  · rintro rfl
    obtain ⟨last, hlast⟩ := exists_behindLast mark cs
    rwa [afterLast_of_behindLast hlast]
  · exact afterLast_of_behindLast

end

section

variable {drop : Char → Bool} {cs inner : List Char}

/-- Dropping from the left ends where the first character that is kept stands. -/
theorem dropWhile_append {left : List Char} (hleft : ∀ c ∈ left, drop c) (hfirst : ∀ c ∈ cs.head?, drop c = false) :
    (left ++ cs).dropWhile drop = cs := by
  rw [List.dropWhile_append_of_pos hleft]
  cases cs with
  | nil => rfl
  | cons c rest =>
    apply List.dropWhile_cons_of_neg
    rw [hfirst c rfl]
    exact Bool.false_ne_true

theorem first_of_dropWhile (drop : Char → Bool) (cs : List Char) :
    ∀ c ∈ (cs.dropWhile drop).head?, drop c = false := by
  intro c hc
  have hstop := List.head?_dropWhile_not drop cs
  rw [Option.mem_def] at hc
  rwa [hc] at hstop

theorem trimmed_trim (drop : Char → Bool) (cs : List Char) : Trimmed drop cs (trim drop cs) := by
  let kept := cs.dropWhile drop
  have hkept : cs.takeWhile drop ++ kept = cs := List.takeWhile_append_dropWhile
  have hends : trim drop cs ++ (kept.reverse.takeWhile drop).reverse = kept := by
    rw [trim, ← List.reverse_append, List.takeWhile_append_dropWhile, List.reverse_reverse]
  refine ⟨⟨cs.takeWhile drop, (kept.reverse.takeWhile drop).reverse, ?_, ?_, ?_⟩, ?_, ?_⟩
  · rw [List.append_assoc, hends, hkept]
  · exact fun c hc => List.mem_takeWhile_imp hc
  · exact fun c hc => List.mem_takeWhile_imp (List.mem_reverse.mp hc)
  · -- What is left of the text begins where the trimming from the left has ended.
    intro c hc
    apply first_of_dropWhile drop cs c
    change c ∈ kept.head?
    rw [← hends, List.head?_append, Option.mem_def.mp hc]
    rfl
  · intro c hc
    rw [trim, List.getLast?_reverse] at hc
    exact first_of_dropWhile drop kept.reverse c hc

theorem trim_of_trimmed (hinner : Trimmed drop cs inner) : trim drop cs = inner := by
  obtain ⟨⟨left, right, rfl, hleft, hright⟩, hfirst, hlast⟩ := hinner
  have hright_reverse : ∀ c ∈ right.reverse, drop c := fun c hc => hright c (List.mem_reverse.mp hc)
  have hlast_reverse : ∀ c ∈ inner.reverse.head?, drop c = false := by
    rwa [List.head?_reverse]
  rw [trim, List.append_assoc]
  cases inner with
  | nil =>
    have hall : (left ++ ([] ++ right)).dropWhile drop = [] := by
      rw [List.dropWhile_eq_nil_iff, List.nil_append]
      exact List.forall_mem_append.mpr ⟨hleft, hright⟩
    rw [hall]
    rfl
  | cons c rest =>
    have hbehind : (left ++ (c :: rest ++ right)).dropWhile drop = c :: rest ++ right :=
      dropWhile_append hleft hfirst
    rw [hbehind, List.reverse_append, dropWhile_append hright_reverse hlast_reverse, List.reverse_reverse]

end

end TableGateway.Text
