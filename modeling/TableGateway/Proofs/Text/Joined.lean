import Mathlib.Data.List.Basic

/-!
Lists and texts joined by a mark. What lies between the marks of the joined list is what lies between the marks of
its parts, so that joined texts are equal exactly when the commas cut the parts into the same pieces.
-/

namespace TableGateway.Text

section

variable {α : Type}

theorem mem_intercalate {mark a : α} {parts : List (List α)} (ha : a ∈ [mark].intercalate parts) :
    a = mark ∨ ∃ part ∈ parts, a ∈ part := by
  induction parts with
  | nil => simp at ha
  | cons part rest ih =>
    cases rest with
    | nil => exact .inr ⟨part, List.mem_singleton_self part, by simpa using ha⟩
    | cons next rest =>
      rw [List.intercalate_cons_cons, List.append_assoc, List.mem_append, List.mem_append] at ha
      rcases ha with hpart | hmark | hrest
      · exact .inr ⟨part, List.mem_cons_self, hpart⟩
      · exact .inl (List.mem_singleton.mp hmark)
      · exact (ih hrest).imp_right fun ⟨other, hother, ha⟩ => ⟨other, List.mem_cons_of_mem part hother, ha⟩

theorem map_intercalate {β : Type} (f : α → β) (mark : List α) (parts : List (List α)) :
    (mark.intercalate parts).map f = (mark.map f).intercalate (parts.map (List.map f)) := by
  induction parts with
  | nil => rfl
  | cons part rest ih =>
    cases rest with
    | nil => simp
    | cons next rest => simp only [List.intercalate_cons_cons, List.map_append, List.map_cons, ih]

variable [BEq α] [LawfulBEq α]

theorem splitOn_append_cons (mark : α) (before after : List α) :
    (before ++ mark :: after).splitOn mark = before.splitOn mark ++ after.splitOn mark := by
  simp only [List.splitOn_eq_splitOnP]
  exact List.splitOnP_append_cons before after (beq_self_eq_true mark)

/-- Joined parts fall apart at the marks inside of them as well. -/
theorem splitOn_intercalate_flatMap (mark : α) {parts : List (List α)} (hparts : parts ≠ []) :
    ([mark].intercalate parts).splitOn mark = parts.flatMap (·.splitOn mark) := by
  induction parts with
  | nil => exact absurd rfl hparts
  | cons part rest ih =>
    cases rest with
    | nil => simp
    | cons next rest =>
      rw [List.intercalate_cons_cons, List.append_assoc, List.singleton_append, splitOn_append_cons,
        ih (List.cons_ne_nil next rest)]
      rfl

end

/-- What the commas of a text cut it into. -/
def pieces (s : String) : List (List Char) := s.toList.splitOn ','

theorem pieces_injective {s s' : String} (hpieces : pieces s = pieces s') : s = s' := by
  have hjoined := congrArg ([','].intercalate ·) hpieces
  simp only [pieces, List.intercalate_splitOn] at hjoined
  exact String.toList_inj.mp hjoined

theorem pieces_intercalate {texts : List String} (htexts : texts ≠ []) :
    pieces (",".intercalate texts) = texts.flatMap pieces := by
  have hparts : texts.map String.toList ≠ [] := by simpa using htexts
  have hmark : ",".toList = [','] := rfl
  rw [pieces, String.toList_intercalate, hmark, splitOn_intercalate_flatMap ',' hparts, List.flatMap_map]
  rfl

theorem intercalate_eq_intercalate_iff {texts texts' : List String} (htexts : texts ≠ []) (htexts' : texts' ≠ []) :
    ",".intercalate texts = ",".intercalate texts' ↔ texts.flatMap pieces = texts'.flatMap pieces := by
  rw [← pieces_intercalate htexts, ← pieces_intercalate htexts']
  exact ⟨congrArg pieces, pieces_injective⟩

theorem pieces_of_not_mem {s : String} (hcomma : ',' ∉ s.toList) : pieces s = [s.toList] := by
  rw [pieces, List.splitOn_eq_splitOnP]
  apply List.splitOnP_eq_singleton
  intro c hc
  have hother : c ≠ ',' := fun heq => hcomma (heq ▸ hc)
  exact beq_eq_false_iff_ne.mpr hother

theorem flatMap_pieces {texts : List String} (hcomma : ∀ s ∈ texts, ',' ∉ s.toList) :
    texts.flatMap pieces = texts.map String.toList := by
  rw [List.map_eq_flatMap]
  exact List.flatMap_congr fun s hs => pieces_of_not_mem (hcomma s hs)

end TableGateway.Text
