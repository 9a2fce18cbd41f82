import TableGateway.Proofs.Json.Grammar
import TableGateway.Proofs.Sequence

/-!
Blanks, strings and numerals. The readers of the parts of a JSON text that have no parts of their own follow the
grammar: what one of them reads is spelt as the grammar says, and what the grammar spells is read. A numeral is read to
its end only where something follows that ends it.
-/

namespace TableGateway.Json

open TableGateway.Number TableGateway.Text

section Parts

variable {glyphs rest : List Glyph}

theorem isBlank_iff (c : Char) : isBlank (.char c) ↔ c ∈ blanks := by
  simp [isBlank, blanks, or_assoc]

theorem blanks_skipBlanks (glyphs : List Glyph) : Blanks glyphs (skipBlanks glyphs) := by
  induction glyphs with
  | nil => exact .none []
  | cons glyph glyphs ih =>
    cases hblank : isBlank glyph with
    | false =>
      rw [skipBlanks, List.dropWhile_cons_of_neg (by simp [hblank])]
      exact .none _
    | true =>
      rw [skipBlanks, List.dropWhile_cons_of_pos hblank]
      cases glyph with
      | char c => exact .more ((isBlank_iff c).mp hblank) ih
      | surrogate unit => cases hblank

theorem skipBlanks_of_blanks (hblanks : Blanks glyphs rest) (hrest : ∀ glyph ∈ rest.head?, isBlank glyph = false) :
    skipBlanks glyphs = rest := by
  induction hblanks with
  | none rest =>
    cases rest with
    | nil => rfl
    | cons glyph rest =>
      have hfirst : isBlank glyph = false := hrest glyph rfl
      rw [skipBlanks, List.dropWhile_cons_of_neg (by simp [hfirst])]
  | more hblank _ ih =>
    rw [skipBlanks, List.dropWhile_cons_of_pos ((isBlank_iff _).mpr hblank)]
    exact ih hrest

theorem length_of_blanks (hblanks : Blanks glyphs rest) : rest.length ≤ glyphs.length := by
  induction hblanks with
  | none => exact Nat.le_refl _
  | more _ _ ih => exact Nat.le_succ_of_le ih

theorem readUnit_eq_some_iff {unit : Nat} : readUnit glyphs = some (unit, rest) ↔ CodeUnit glyphs unit rest := by
  constructor
  · intro hread
    unfold readUnit at hread
    split at hread
    · split at hread
      · next ha hb hc hd =>
        cases hread
        exact .digits ha hb hc hd _
      · cases hread
    · cases hread
  · rintro ⟨ha, hb, hc, hd, rest⟩
    simp [readUnit, ha, hb, hc, hd]

theorem readLow_eq_some_iff {low : Nat} : readLow glyphs = some (low, rest) ↔ LowNext glyphs low rest := by
  constructor
  · intro hread
    unfold readLow at hread
    split at hread
    · obtain ⟨hunit, hlow⟩ := Option.filter_eq_some_iff.mp hread
      exact ⟨_, rfl, readUnit_eq_some_iff.mp hunit, hlow⟩
    · cases hread
  · rintro ⟨digits, rfl, hunit, hlow⟩
    rw [readLow, readUnit_eq_some_iff.mpr hunit]
    simp [Option.filter, hlow]

theorem mem_shortEscapes {letter c : Char} (hc : unescape? letter = some c) : (letter, c) ∈ shortEscapes := by
  unfold unescape? at hc
  split at hc <;> cases hc <;> decide

theorem inside_of_readUnicode {glyph : Glyph} (hread : readUnicode glyphs = some (glyph, rest)) :
    Inside (.char '\\' :: .char 'u' :: glyphs) glyph rest := by
  unfold readUnicode at hread
  split at hread
  · cases hread
  · next unit after hunit =>
    have hspelt := readUnit_eq_some_iff.mp hunit
    split at hread
    · next hhigh =>
      split at hread
      · next hlow =>
        cases hread
        exact .pair hspelt hhigh (readLow_eq_some_iff.mp hlow)
      · next hlow =>
        cases hread
        refine .high hspelt hhigh fun low after hnext => ?_
        rw [readLow_eq_some_iff.mpr hnext] at hlow
        cases hlow
    · next hhigh =>
      have hnot_high : isHighSurrogate unit = false := by simpa using hhigh
      split at hread
      · next hlow =>
        cases hread
        exact .low hspelt hlow
      · next hlow =>
        cases hread
        exact .unit hspelt hnot_high (by simpa using hlow)

theorem inside_of_readGlyph {glyph : Glyph} (hquote : glyphs.head? ≠ some (.char '"'))
    (hread : readGlyph glyphs = some (glyph, rest)) : Inside glyphs glyph rest := by
  unfold readGlyph at hread
  split at hread
  · cases hread
  · cases hread
    exact .surrogate _ _
  · next c after =>
    split at hread
    · next hescape =>
      subst hescape
      unfold readEscape at hread
      split at hread
      · exact inside_of_readUnicode hread
      · obtain ⟨c, hc, heq⟩ := Option.map_eq_some_iff.mp hread
        cases heq
        exact .short (mem_shortEscapes hc) _
      · cases hread
    · next hescape =>
      split at hread
      · cases hread
      · next hcontrol =>
        cases hread
        exact .plain (by simpa using hquote) hescape (by omega) _

theorem head?_of_inside {glyph : Glyph} (hinside : Inside glyphs glyph rest) : glyphs.head? ≠ some (.char '"') := by
  cases hinside with
  | plain hquote => simpa using hquote
  | _ => simp

theorem not_high_of_low {unit : Nat} (hlow : isLowSurrogate unit) : isHighSurrogate unit = false := by
  simp only [isHighSurrogate, isLowSurrogate, Bool.and_eq_true, decide_eq_true_eq, Bool.and_eq_false_iff,
    decide_eq_false_iff_not] at hlow ⊢
  omega

theorem readGlyph_of_inside {glyph : Glyph} (hinside : Inside glyphs glyph rest) :
    readGlyph glyphs = some (glyph, rest) := by
  cases hinside with
  | plain _ hescape hcontrol =>
    have hplain : ¬ _ < 0x20 := Nat.not_lt.mpr hcontrol
    simp only [readGlyph, if_neg hescape, if_neg hplain]
  | surrogate => rfl
  | short hletter =>
    simp only [shortEscapes, List.mem_cons, Prod.mk.injEq, List.not_mem_nil, or_false] at hletter
    rcases hletter with h | h | h | h | h | h | h | h <;> (obtain ⟨rfl, rfl⟩ := h; rfl)
  | unit hunit hhigh hlow =>
    change readUnicode _ = _
    simp [readUnicode, readUnit_eq_some_iff.mpr hunit, hhigh, hlow]
  | pair hunit hhigh hlow =>
    change readUnicode _ = _
    simp [readUnicode, readUnit_eq_some_iff.mpr hunit, hhigh, readLow_eq_some_iff.mpr hlow]
  | high hunit hhigh halone =>
    have hnone : readLow rest = none := by
      cases hread : readLow rest with
      | none => rfl
      | some read => exact absurd (readLow_eq_some_iff.mp hread) (halone read.1 read.2)
    change readUnicode _ = _
    simp [readUnicode, readUnit_eq_some_iff.mpr hunit, hhigh, hnone]
  | low hunit hlow =>
    change readUnicode _ = _
    simp [readUnicode, readUnit_eq_some_iff.mpr hunit, not_high_of_low hlow, hlow]

theorem length_of_codeUnit {unit : Nat} (hunit : CodeUnit glyphs unit rest) : rest.length < glyphs.length := by
  cases hunit with
  | digits =>
    simp only [List.length_cons]
    omega

theorem length_of_inside {glyph : Glyph} (hinside : Inside glyphs glyph rest) : rest.length < glyphs.length := by
  cases hinside with
  | plain | surrogate => exact Nat.lt_succ_self _
  | short => exact Nat.lt_succ_of_lt (Nat.lt_succ_self _)
  | unit hunit | high hunit | low hunit =>
    have hlength := length_of_codeUnit hunit
    simp only [List.length_cons]
    omega
  | pair hunit _ hlow =>
    obtain ⟨digits, rfl, hlow, -⟩ := hlow
    have hfirst := length_of_codeUnit hunit
    have hsecond := length_of_codeUnit hlow
    simp only [List.length_cons] at hfirst ⊢
    omega

theorem readText_succ {fuel : Nat} (hquote : glyphs.head? ≠ some (.char '"')) :
    readText (fuel + 1) glyphs =
      (readGlyph glyphs).bind fun read => (readText fuel read.2).map fun more => (read.1 :: more.1, more.2) := by
  rw [readText]
  · cases readGlyph glyphs <;> rfl
  · rintro more rfl
    simp at hquote

theorem quoted_of_readText {fuel : Nat} {content : List Glyph} (hread : readText fuel glyphs = some (content, rest)) :
    Quoted glyphs content rest := by
  induction fuel generalizing glyphs content with
  | zero =>
    unfold readText at hread
    split at hread
    · cases hread
      exact .close rest
    · cases hread
    · contradiction
  | succ fuel ih =>
    by_cases hquote : glyphs.head? = some (.char '"')
    · obtain ⟨more, rfl⟩ := List.head?_eq_some_iff.mp hquote
      cases hread
      exact .close rest
    · rw [readText_succ hquote] at hread
      obtain ⟨⟨glyph, middle⟩, hglyph, hmore⟩ := Option.bind_eq_some_iff.mp hread
      obtain ⟨⟨others, after⟩, hothers, heq⟩ := Option.map_eq_some_iff.mp hmore
      cases heq
      exact .more (inside_of_readGlyph hquote hglyph) (ih hothers)

/-- Each glyph takes one character at least, so that a text supplies the fuel for reading it. -/
theorem readText_of_quoted {fuel : Nat} {content : List Glyph} (hfuel : glyphs.length ≤ fuel)
    (hquoted : Quoted glyphs content rest) : readText fuel glyphs = some (content, rest) := by
  induction hquoted generalizing fuel with
  | close rest => cases fuel <;> rfl
  | more hglyph _ ih =>
    have hlength := length_of_inside hglyph
    obtain ⟨fuel, rfl⟩ : ∃ n, fuel = n + 1 := ⟨fuel - 1, by omega⟩
    have hmore : readText fuel _ = some (_, _) := ih (by omega)
    rw [readText_succ (head?_of_inside hglyph), readGlyph_of_inside hglyph, Option.bind_some, hmore]
    rfl

theorem readString_eq_some_iff {v : Value} :
    readString glyphs = some (v, rest) ↔ ∃ content, Quoted glyphs content rest ∧ v = .ofGlyphs content := by
  constructor
  · intro hread
    obtain ⟨⟨content, after⟩, hcontent, heq⟩ := Option.map_eq_some_iff.mp hread
    cases heq
    exact ⟨content, quoted_of_readText hcontent, rfl⟩
  · rintro ⟨content, hquoted, rfl⟩
    rw [readString, readText_of_quoted (Nat.le_refl _) hquoted]
    rfl

end Parts

section Numerals

variable {glyphs rest : List Glyph}

theorem ne_of_isDigit {c d : Char} (hc : c.isDigit) (hd : d.isDigit = false) : c ≠ d := by
  rintro rfl
  simp [hc] at hd

/-- A run of digits ends in front of anything else. -/
theorem readDigits_of_not_digit {digits : List Char} {rest : List Glyph} (hdigits : ∀ c ∈ digits, c.isDigit)
    (hrest : ∀ glyph ∈ rest.head?, isDigit glyph = false) :
    readDigits (asGlyphs digits ++ rest) = (digits, rest) := by
  induction digits with
  | nil =>
    cases rest with
    | nil => rfl
    | cons glyph rest =>
      have hmark : isDigit glyph = false := hrest glyph rfl
      simp [readDigits, hmark]
  | cons c digits ih =>
    have hc : isDigit (.char c) = true := by
      simpa [isDigit, Glyph.char?] using hdigits c (by simp)
    have htail := ih fun d hd => hdigits d (by simp [hd])
    simp only [readDigits, Prod.mk.injEq] at htail
    simp [readDigits, hc, htail, Glyph.char?]

/-- The blanks, and the marks that end a value. -/
def enders : List Char := [' ', '\t', '\n', '\r', ',', ']', '\x7d']

/-- What may stand behind a value: nothing, a blank, or a mark that ends it. -/
def Ends (rest : List Glyph) : Prop := ∀ glyph ∈ rest.head?, ∃ c ∈ enders, glyph = .char c

theorem asGlyphs_readDigits (glyphs : List Glyph) :
    asGlyphs (readDigits glyphs).1 ++ (readDigits glyphs).2 = glyphs := by
  have hchars : asGlyphs (readDigits glyphs).1 = glyphs.takeWhile isDigit := by
    have hdigits : ∀ glyph ∈ glyphs.takeWhile isDigit, isDigit glyph :=
      List.all_eq_true.mp List.all_takeWhile
    change ((glyphs.takeWhile isDigit).filterMap Glyph.char?).map Glyph.char = _
    rw [List.map_filterMap]
    refine (List.filterMap_congr fun glyph hglyph => ?_).trans List.filterMap_some
    cases glyph with
    | char c => rfl
    | surrogate unit => cases hdigits _ hglyph
  rw [hchars]
  exact List.takeWhile_append_dropWhile

theorem isDigit_of_readDigits {glyphs : List Glyph} {c : Char} (hc : c ∈ (readDigits glyphs).1) :
    c.isDigit := by
  simp only [readDigits, List.mem_filterMap] at hc
  obtain ⟨glyph, hglyph, hchar⟩ := hc
  have hdigit : isDigit glyph := List.all_eq_true.mp List.all_takeWhile glyph hglyph
  rw [isDigit, hchar] at hdigit
  simpa using hdigit

theorem digits_of_readDigits {digits : List Char} (hread : readDigits glyphs = (digits, rest)) (hsome : digits ≠ []) :
    glyphs = asGlyphs digits ++ rest ∧ Digits digits := by
  have hglyphs := asGlyphs_readDigits glyphs
  have hdigits : ∀ c ∈ (readDigits glyphs).1, c.isDigit := fun c hc => isDigit_of_readDigits hc
  rw [hread] at hglyphs hdigits
  exact ⟨hglyphs.symm, hsome, hdigits⟩

theorem whole_of_readWhole {whole : List Char} (hread : readWhole glyphs = some (whole, rest)) :
    glyphs = asGlyphs whole ++ rest ∧ Whole whole := by
  unfold readWhole at hread
  split at hread
  · cases hread
    exact ⟨rfl, .inl rfl⟩
  · next hzero =>
    split at hread
    · cases hread
    · next read hsome =>
      have hdigits : readDigits glyphs = (whole, rest) := Option.some.inj hread
      have hne : whole ≠ [] := by
        rintro rfl
        exact hsome rest hdigits
      obtain ⟨hglyphs, hspelt⟩ := digits_of_readDigits hdigits hne
      refine ⟨hglyphs, .inr ⟨hspelt, fun hhead => ?_⟩⟩
      obtain ⟨more, rfl⟩ := List.head?_eq_some_iff.mp hhead
      exact hzero _ hglyphs

theorem fraction_of_readFraction {places : Option (List Char)} (hread : readFraction glyphs = (places, rest)) :
    ∃ cs, glyphs = asGlyphs cs ++ rest ∧ Fraction cs places := by
  unfold readFraction at hread
  split at hread
  · next more =>
    split at hread
    · cases hread
      exact ⟨[], rfl, .none⟩
    · next digits after hsome hdigits =>
      cases hread
      obtain ⟨rfl, hspelt⟩ := digits_of_readDigits hdigits hsome
      exact ⟨'.' :: digits, rfl, .some hspelt⟩
  · cases hread
    exact ⟨[], rfl, .none⟩

theorem sign_of_readSign {negative : Bool} (hread : readSign glyphs = (negative, rest)) :
    ∃ cs, glyphs = asGlyphs cs ++ rest ∧ Sign cs negative := by
  unfold readSign at hread
  split at hread <;> cases hread
  · exact ⟨['-'], rfl, .minus⟩
  · exact ⟨['+'], rfl, .plus⟩
  · exact ⟨[], rfl, .none⟩

theorem exponent_of_readExponent {power : Option Int} (hread : readExponent glyphs = (power, rest)) :
    ∃ cs, glyphs = asGlyphs cs ++ rest ∧ Exponent cs power := by
  unfold readExponent at hread
  split at hread
  · next e more =>
    split at hread
    next negative unsigned hsign =>
    split at hread
    · cases hread
      exact ⟨[], rfl, .none⟩
    · next digits after hsome hdigits =>
      split at hread
      · next hletter =>
        cases hread
        obtain ⟨sign, rfl, hspelt_sign⟩ := sign_of_readSign hsign
        obtain ⟨rfl, hspelt⟩ := digits_of_readDigits hdigits hsome
        exact ⟨e :: (sign ++ digits), by simp, .some hletter hspelt_sign hspelt⟩
      · cases hread
        exact ⟨[], rfl, .none⟩
  · cases hread
    exact ⟨[], rfl, .none⟩

theorem numeral_of_number? {negative : Bool} {whole fraction exponent : List Char} {places : Option (List Char)}
    {power : Option Int} {v : Value} (hwhole : Whole whole) (hfraction : Fraction fraction places)
    (hexponent : Exponent exponent power) (hv : number? negative whole places power = some v) :
    Numeral (signText negative ++ (whole ++ (fraction ++ exponent))) v := by
  unfold number? at hv
  split at hv
  · split at hv
    · next hlimit =>
      cases hv
      cases hfraction
      cases hexponent
      simpa using Numeral.integer negative hwhole hlimit
    · cases hv
  · next hdouble =>
    cases hv
    refine .double negative hwhole hfraction hexponent ?_
    by_contra hnone
    push Not at hnone
    exact hdouble hnone.1 hnone.2

theorem numeral_of_readNumber {v : Value} (hread : readNumber glyphs = some (v, rest)) :
    ∃ cs, glyphs = asGlyphs cs ++ rest ∧ Numeral cs v := by
  unfold readNumber at hread
  split at hread
  next negative unsigned hminus =>
  have hsigned : glyphs = asGlyphs (signText negative) ++ unsigned := by
    split at hminus <;> cases hminus <;> rfl
  split at hread
  · cases hread
  next whole after hwhole =>
  cases hfraction : readFraction after with
  | mk places middle =>
    cases hexponent : readExponent middle with
    | mk power last =>
      simp only [hfraction, hexponent] at hread
      obtain ⟨w, hw, heq⟩ := Option.map_eq_some_iff.mp hread
      cases heq
      obtain ⟨rfl, hspelt⟩ := whole_of_readWhole hwhole
      obtain ⟨fraction, rfl, hplaces⟩ := fraction_of_readFraction hfraction
      obtain ⟨exponent, rfl, hpower⟩ := exponent_of_readExponent hexponent
      refine ⟨_, ?_, numeral_of_number? hspelt hplaces hpower hw⟩
      simp [hsigned]

/-- Nothing that continues a run of digits. -/
def NoDigit (rest : List Glyph) : Prop := ∀ glyph ∈ rest.head?, isDigit glyph = false

theorem noDigit_of_ends (hrest : Ends rest) : NoDigit rest := by
  intro glyph hglyph
  obtain ⟨c, hc, rfl⟩ := hrest glyph hglyph
  have hmarks : ∀ c ∈ enders, isDigit (.char c) = false :=
    List.forall_iff_forall_mem.mp (by decide)
  exact hmarks c hc

theorem readWhole_of_whole {whole : List Char} (hwhole : Whole whole) (hrest : NoDigit rest) :
    readWhole (asGlyphs whole ++ rest) = some (whole, rest) := by
  rcases hwhole with rfl | ⟨⟨hsome, hdigits⟩, hhead⟩
  · rfl
  · have hread := readDigits_of_not_digit hdigits hrest
    obtain ⟨c, cs, rfl⟩ := List.exists_cons_of_ne_nil hsome
    have hc : c ≠ '0' := by simpa using hhead
    rw [readWhole, hread]
    intro _ heq
    simp only [List.map_cons, List.cons_append, List.cons.injEq, Glyph.char.injEq] at heq
    exact hc heq.1

theorem readFraction_of_fraction {fraction : List Char} {places : Option (List Char)}
    (hfraction : Fraction fraction places) (hrest : NoDigit rest) (hpoint : rest.head? ≠ some (.char '.')) :
    readFraction (asGlyphs fraction ++ rest) = (places, rest) := by
  cases hfraction with
  | none =>
    change readFraction rest = (none, rest)
    unfold readFraction
    split
    · simp at hpoint
    · rfl
  | some hplaces =>
    obtain ⟨c, cs, hcs⟩ := List.exists_cons_of_ne_nil hplaces.1
    have hread := readDigits_of_not_digit hplaces.2 hrest
    rw [hcs] at hread
    simp only [hcs, List.map_cons, List.cons_append] at hread ⊢
    rw [readFraction, hread]

theorem readSign_of_sign {sign digits : List Char} {negative : Bool} (hsign : Sign sign negative)
    (hdigits : Digits digits) (rest : List Glyph) :
    readSign (asGlyphs sign ++ (asGlyphs digits ++ rest)) = (negative, asGlyphs digits ++ rest) := by
  cases hsign with
  | plus | minus => rfl
  | none =>
    obtain ⟨c, cs, rfl⟩ := List.exists_cons_of_ne_nil hdigits.1
    have hc : c.isDigit := hdigits.2 c (by simp)
    have hminus : c ≠ '-' := ne_of_isDigit hc (by decide)
    have hplus : c ≠ '+' := ne_of_isDigit hc (by decide)
    simp [readSign, hminus, hplus]

theorem readExponent_of_exponent {exponent : List Char} {power : Option Int} (hexponent : Exponent exponent power)
    (hrest : Ends rest) : readExponent (asGlyphs exponent ++ rest) = (power, rest) := by
  cases hexponent with
  | none =>
    cases rest with
    | nil => rfl
    | cons glyph rest =>
      obtain ⟨c, hc, rfl⟩ := hrest glyph rfl
      have hmarks : ∀ c ∈ enders, ¬ (c = 'e' ∨ c = 'E') :=
        List.forall_iff_forall_mem.mp (by decide)
      simp only [readExponent, List.map_nil, List.nil_append, if_neg (hmarks c hc)]
      split <;> rfl
  | some hletter hsign hdigits =>
    obtain ⟨c, cs, hcs⟩ := List.exists_cons_of_ne_nil hdigits.1
    have hread := readDigits_of_not_digit hdigits.2 (noDigit_of_ends hrest)
    have hsigned := readSign_of_sign hsign hdigits rest
    rw [hcs] at hread hsigned
    simp only [hcs, List.map_cons, List.map_append, List.cons_append, List.append_assoc] at hread hsigned ⊢
    simp only [readExponent, hsigned, hread, if_pos hletter]

theorem noDigit_of_exponent {exponent : List Char} {power : Option Int} (hexponent : Exponent exponent power)
    (hrest : Ends rest) :
    NoDigit (asGlyphs exponent ++ rest) ∧ (asGlyphs exponent ++ rest).head? ≠ some (.char '.') := by
  cases hexponent with
  | none =>
    refine ⟨noDigit_of_ends hrest, fun hhead => ?_⟩
    obtain ⟨c, hc, heq⟩ := hrest _ hhead
    cases heq
    exact absurd hc (by decide)
  | some hletter =>
    rcases hletter with rfl | rfl
    · exact ⟨by rintro glyph ⟨⟩; decide, by simp⟩
    · exact ⟨by rintro glyph ⟨⟩; decide, by simp⟩

theorem noDigit_of_fraction {fraction : List Char} {places : Option (List Char)} (hfraction : Fraction fraction places)
    (hrest : NoDigit rest) : NoDigit (asGlyphs fraction ++ rest) := by
  cases hfraction with
  | none => exact hrest
  | some =>
    rintro glyph ⟨⟩
    decide

theorem head?_of_whole {whole : List Char} (hwhole : Whole whole) : ∃ c cs, whole = c :: cs ∧ c.isDigit := by
  rcases hwhole with rfl | ⟨⟨hsome, hdigits⟩, -⟩
  · exact ⟨'0', [], rfl, by decide⟩
  · obtain ⟨c, cs, rfl⟩ := List.exists_cons_of_ne_nil hsome
    exact ⟨c, cs, rfl, hdigits c (by simp)⟩

/-- The parts of a numeral are read one by one. -/
theorem readNumber_of_parts (negative : Bool) {whole fraction exponent : List Char} {places : Option (List Char)}
    {power : Option Int} (hwhole : Whole whole) (hfraction : Fraction fraction places)
    (hexponent : Exponent exponent power) (hrest : Ends rest) :
    readNumber (asGlyphs (signText negative ++ (whole ++ (fraction ++ exponent))) ++ rest) =
      (number? negative whole places power).map (·, rest) := by
  obtain ⟨hafter, hpoint⟩ := noDigit_of_exponent hexponent hrest
  have hread := readWhole_of_whole hwhole (noDigit_of_fraction hfraction hafter)
  have hplaces := readFraction_of_fraction hfraction hafter hpoint
  have hpower := readExponent_of_exponent hexponent hrest
  obtain ⟨c, cs, rfl, hc⟩ := head?_of_whole hwhole
  have hminus : c ≠ '-' := ne_of_isDigit hc (by decide)
  simp only [List.map_append, List.map_cons, List.cons_append, List.append_assoc] at hread hplaces hpower ⊢
  cases negative <;> simp [readNumber, signText, hminus, hread, hplaces, hpower]

theorem readNumber_of_numeral {cs : List Char} {v : Value} (hnumeral : Numeral cs v) (hrest : Ends rest) :
    readNumber (asGlyphs cs ++ rest) = some (v, rest) := by
  cases hnumeral with
  | integer negative hwhole hlimit =>
    have hread := readNumber_of_parts negative hwhole .none .none hrest
    rw [List.append_nil, List.append_nil] at hread
    rw [hread, number?, if_pos hlimit]
    rfl
  | double negative hwhole hfraction hexponent hdouble =>
    rw [readNumber_of_parts negative hwhole hfraction hexponent hrest, number?]
    · rfl
    · rintro rfl rfl
      simp at hdouble

theorem numeral_eq_cons {cs : List Char} {v : Value} (hnumeral : Numeral cs v) :
    ∃ c more, cs = c :: more ∧ (c.isDigit ∨ c = '-' ∧ ∃ d others, more = d :: others ∧ d.isDigit) := by
  have hparts (negative : Bool) {whole : List Char} (hwhole : Whole whole) (tail : List Char) :
      ∃ c more, signText negative ++ (whole ++ tail) = c :: more ∧
        (c.isDigit ∨ c = '-' ∧ ∃ d others, more = d :: others ∧ d.isDigit) := by
    obtain ⟨d, ds, rfl, hd⟩ := head?_of_whole hwhole
    cases negative with
    | false => exact ⟨d, ds ++ tail, rfl, .inl hd⟩
    | true => exact ⟨'-', d :: (ds ++ tail), rfl, .inr ⟨rfl, d, ds ++ tail, rfl, hd⟩⟩
  cases hnumeral with
  | integer negative hwhole => simpa using hparts negative hwhole []
  | double negative hwhole => exact hparts negative hwhole _

end Numerals

end TableGateway.Json
