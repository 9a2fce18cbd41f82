import TableGateway.Proofs.Json.RoundTrip

/-!
The characters of JSON texts. Whatever characters the strings of a value hold, its text is made of the printable
ones among the first 128: every other character is spelt by escapes, which are a backslash, a letter and digits.
A text like this reaches its reader whatever encoding is assumed on the way.
-/

namespace TableGateway.Json

open TableGateway.Number

/-- A printable character of ASCII, the space included. -/
def isPrintableAscii (c : Char) : Bool := 0x20 ≤ c.toNat && c.toNat < 0x7F

theorem isPrintableAscii_of_isDigit {c : Char} (hc : c.isDigit) : isPrintableAscii c := by
  simp only [Char.isDigit, ge_iff_le, Bool.and_eq_true, decide_eq_true_eq, UInt32.le_iff_toNat_le] at hc
  obtain ⟨hlow, hhigh⟩ := hc
  simp only [isPrintableAscii, Bool.and_eq_true, decide_eq_true_eq, Char.toNat]
  have hzero : '0'.val.toNat = 48 := rfl
  have hnine : '9'.val.toNat = 57 := rfl
  omega

theorem isPrintableAscii_hexDigit {n : Nat} (hn : n < 16) : isPrintableAscii (hexDigit n) := by
  have hall : ∀ m : Fin 16, isPrintableAscii (hexDigit m) := by decide
  exact hall ⟨n, hn⟩

theorem isPrintableAscii_of_mem_hexDigits {width n : Nat} {c : Char} (hc : c ∈ hexDigits width n) :
    isPrintableAscii c := by
  induction width generalizing n with
  | zero => cases hc
  | succ width ih =>
    rw [hexDigits, List.mem_append] at hc
    rcases hc with hmore | hlast
    · exact ih hmore
    · rw [List.mem_singleton.mp hlast]
      apply isPrintableAscii_hexDigit
      omega

theorem isPrintableAscii_of_mem_escapeUnit {unit : Nat} {c : Char} (hc : c ∈ escapeUnit unit) :
    isPrintableAscii c := by
  rcases List.mem_cons.mp hc with rfl | hc
  · decide
  rcases List.mem_cons.mp hc with rfl | hc
  · decide
  · exact isPrintableAscii_of_mem_hexDigits hc

theorem isPrintableAscii_of_mem_escapeChar {c d : Char} (hd : d ∈ escapeChar c) : isPrintableAscii d := by
  -- Two characters behind a backslash, the character itself, one escaped unit or two of them.
  have hpair {e : Char} (he : isPrintableAscii e) (hd : d ∈ ['\\', e]) : isPrintableAscii d := by
    rcases List.mem_pair.mp hd with rfl | rfl
    · decide
    · exact he
  unfold escapeChar at hd
  iterate 7
    split at hd
    · exact hpair (by decide) hd
  split at hd
  · next hplain =>
    rw [List.mem_singleton.mp hd]
    simpa [isPrintableAscii] using hplain
  split at hd
  · exact isPrintableAscii_of_mem_escapeUnit hd
  · rcases List.mem_append.mp hd with hhigh | hlow
    · exact isPrintableAscii_of_mem_escapeUnit hhigh
    · exact isPrintableAscii_of_mem_escapeUnit hlow

theorem isPrintableAscii_of_mem_quote {s : String} {c : Char} (hc : c ∈ quote s) : isPrintableAscii c := by
  rw [quote, List.cons_append, List.mem_cons, List.mem_append, List.mem_singleton, List.mem_flatMap] at hc
  rcases hc with rfl | ⟨d, -, hd⟩ | rfl
  · decide
  · exact isPrintableAscii_of_mem_escapeChar hd
  · decide

theorem isPrintableAscii_of_mem_intDigits {n : Int} {c : Char} (hc : c ∈ intDigits n) : isPrintableAscii c := by
  cases n with
  | ofNat n => exact isPrintableAscii_of_isDigit (isDigit_of_mem_natDigits hc)
  | negSucc n =>
    rcases List.mem_cons.mp hc with rfl | hc
    · decide
    · exact isPrintableAscii_of_isDigit (isDigit_of_mem_natDigits hc)

section

variable {layout : Layout} {c : Char}

/-- A character of the text of a list belongs to an item, or to what stands between two items. -/
theorem mem_renderItems {items : List Value} (hc : c ∈ renderItems layout items) :
    c ∈ layout.comma ∨ ∃ v ∈ items, c ∈ render layout v := by
  cases items with
  | nil => cases hc
  | cons v items =>
    induction items generalizing v with
    | nil =>
      rw [renderItems, renderMoreItems, List.append_nil] at hc
      exact .inr ⟨v, List.mem_cons_self, hc⟩
    | cons w items ih =>
      rw [renderItems, renderMoreItems_cons, List.mem_append, List.mem_append] at hc
      rcases hc with hfirst | hcomma | hrest
      · exact .inr ⟨v, List.mem_cons_self, hfirst⟩
      · exact .inl hcomma
      · rcases ih w hrest with hcomma | ⟨u, hu, hmem⟩
        · exact .inl hcomma
        · exact .inr ⟨u, List.mem_cons_of_mem v hu, hmem⟩

/-- A character of the text of a map belongs to a name, to a value, or to what stands between them. -/
theorem mem_renderFields {fields : Fields Value} (hc : c ∈ renderFields layout fields) :
    (c ∈ layout.comma ∨ c ∈ layout.colon) ∨
      ∃ field ∈ fields, c ∈ quote field.1 ∨ c ∈ render layout field.2 := by
  cases fields with
  | nil => cases hc
  | cons field fields =>
    have hfield {field : String × Value} {rest : List Char}
        (hc : c ∈ quote field.1 ++ layout.colon ++ render layout field.2 ++ rest) :
        (c ∈ quote field.1 ∨ c ∈ render layout field.2) ∨ c ∈ layout.colon ∨ c ∈ rest := by
      simp only [List.mem_append] at hc
      tauto
    induction fields generalizing field with
    | nil =>
      rcases hfield hc with hfirst | hcolon | hrest
      · exact .inr ⟨field, List.mem_cons_self, hfirst⟩
      · exact .inl (.inr hcolon)
      · cases hrest
    | cons next fields ih =>
      rcases hfield hc with hfirst | hcolon | hrest
      · exact .inr ⟨field, List.mem_cons_self, hfirst⟩
      · exact .inl (.inr hcolon)
      · rw [renderMoreFields_cons, List.mem_append] at hrest
        rcases hrest with hcomma | hrest
        · exact .inl (.inl hcomma)
        · rcases ih next hrest with hmark | ⟨other, hother, hmem⟩
          · exact .inl hmark
          · exact .inr ⟨other, List.mem_cons_of_mem field hother, hmem⟩

/-- The text of a value without doubles is printable, if the separators are. -/
theorem isPrintableAscii_of_mem_render (hcomma : ∀ c ∈ layout.comma, isPrintableAscii c)
    (hcolon : ∀ c ∈ layout.colon, isPrintableAscii c) {v : Value} (hv : Data false v) (hc : c ∈ render layout v) :
    isPrintableAscii c := by
  induction hv generalizing c with
  | null =>
    have hword : ['n', 'u', 'l', 'l'].all isPrintableAscii := rfl
    exact List.all_eq_true.mp hword c hc
  | bool b =>
    have hword : (render layout (.bool b)).all isPrintableAscii := by cases b <;> rfl
    exact List.all_eq_true.mp hword c hc
  | int hn => exact isPrintableAscii_of_mem_intDigits hc
  | float x hdoubles => cases hdoubles
  | text s => exact isPrintableAscii_of_mem_quote hc
  | list _ ih =>
    rw [render, List.cons_append, List.mem_cons, List.mem_append, List.mem_singleton] at hc
    rcases hc with rfl | hitems | rfl
    · decide
    · rcases mem_renderItems hitems with hmark | ⟨w, hw, hmem⟩
      · exact hcomma c hmark
      · exact ih w hw hmem
    · decide
  | map _ _ ih =>
    rw [render, List.cons_append, List.mem_cons, List.mem_append, List.mem_singleton] at hc
    rcases hc with rfl | hfields | rfl
    · decide
    · rcases mem_renderFields hfields with (hmark | hmark) | ⟨field, hfield, hname | hmem⟩
      · exact hcomma c hmark
      · exact hcolon c hmark
      · exact isPrintableAscii_of_mem_quote hname
      · exact ih field hfield hmem
    · decide

end

/-- What is written for a value without doubles is printable, and is read back as the value. -/
theorem write_spaced {v : Value} (hv : Data false v) (hdepth : v.nesting ≤ depthLimit) :
    ∃ s, write spaced v = .ok s ∧ (∀ c ∈ s.toList, isPrintableAscii c) ∧ read s = .ok v := by
  refine ⟨String.ofList (render spaced v), ?_, fun c hc => ?_, ?_⟩
  · rw [write_of_data hv, if_pos hdepth]
  · rw [String.toList_ofList] at hc
    have hcomma : spaced.comma.all isPrintableAscii := rfl
    have hcolon : spaced.colon.all isPrintableAscii := rfl
    exact isPrintableAscii_of_mem_render (List.all_eq_true.mp hcomma) (List.all_eq_true.mp hcolon) hv hc
  · rw [read_render spaced_legible hv, if_pos hdepth]

end TableGateway.Json
