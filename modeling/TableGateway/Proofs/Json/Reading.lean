import TableGateway.Proofs.Json.Spelling

/-!
Of every value that is read from a JSON text a text can be made again. Its integers stay within the digit limit,
because the grammar has no longer numerals; this is shown of whatever the grammar spells, rule by rule, and all that is
read is spelt. It lies no deeper than the reader had room for.
-/

namespace TableGateway

open TableGateway.Number TableGateway.Text

namespace Json

theorem natOfDigits_lt {cs : List Char} (hcs : ∀ c ∈ cs, c.isDigit) :
    natOfDigits cs < 10 ^ cs.length := by
  induction cs with
  | nil => simp [natOfDigits]
  | cons c cs ih =>
    have hc : c.toNat - '0'.toNat < 10 := by
      have hdigit := hcs c (by simp)
      simp only [Char.isDigit, ge_iff_le, Bool.and_eq_true, decide_eq_true_eq, UInt32.le_iff_toNat_le]
        at hdigit
      change c.toNat - 48 < 10
      have hle : c.toNat ≤ 57 := hdigit.2
      omega
    have htail : natOfDigits cs < 10 ^ cs.length := ih fun d hd => hcs d (by simp [hd])
    have hhead : 10 ^ cs.length * (c.toNat - '0'.toNat) ≤ 10 ^ cs.length * 9 :=
      Nat.mul_le_mul_left _ (by omega)
    rw [natOfDigits, Nat.ofDigitChars_cons, Nat.ofDigitChars_eq_ofDigitChars_zero, List.length_cons,
      Nat.pow_succ]
    simp only [Nat.mul_zero, Nat.zero_add]
    simp only [natOfDigits] at htail
    omega

theorem isDigit_of_whole {whole : List Char} (hwhole : Whole whole) : ∀ c ∈ whole, c.isDigit := by
  rcases hwhole with rfl | ⟨hdigits, -⟩
  · exact List.forall_mem_singleton.mpr rfl
  · exact hdigits.2

theorem fits_of_numeral {cs : List Char} {v : Value} (hnumeral : Numeral cs v) : v.fits := by
  cases hnumeral with
  | @integer negative whole hwhole hlimit =>
    have hlt : natOfDigits whole < 10 ^ digitLimit :=
      Nat.lt_of_lt_of_le (natOfDigits_lt (isDigit_of_whole hwhole)) (Nat.pow_le_pow_right (by omega) hlimit)
    rw [Value.fits, withinDigitLimit_iff]
    cases negative <;> simpa [signed] using hlt
  | double => rfl

theorem fits_ofGlyphs (glyphs : List Glyph) : (Value.ofGlyphs glyphs).fits := by
  unfold Value.ofGlyphs
  cases textOf? glyphs <;> rfl

/-- No integer in what is spelt is too long. -/
def Phrase.Fits : Phrase → Prop
  | .value v => v.fits
  | .items values => ∀ v ∈ values, v.fits
  | .members pairs => ∀ pair ∈ pairs, pair.1.fits ∧ pair.2.fits

theorem fits_of_spells {glyphs rest : List Glyph} {phrase : Phrase} (hspells : Spells glyphs phrase rest) :
    phrase.Fits := by
  induction hspells with
  | word hword _ =>
    have hwords : ∀ word ∈ words, word.2.fits := by decide
    exact hwords _ hword
  | number hnumeral _ => exact fits_of_numeral hnumeral
  | string _ => exact fits_ofGlyphs _
  | emptyArray _ => rfl
  | array _ _ ih => exact (Value.allFit_iff _).mpr ih
  | lastItem _ _ ih => exact List.forall_mem_singleton.mpr ih
  | item _ _ _ _ ihv ihitems => exact List.forall_mem_cons.mpr ⟨ihv, ihitems⟩
  | emptyObject _ => rfl
  | object _ _ ih => exact Value.fits_ofPairs ih
  | lastMember _ _ _ _ _ ih => exact List.forall_mem_singleton.mpr ⟨fits_ofGlyphs _, ih⟩
  | member _ _ _ _ _ _ _ ihv ihmembers => exact List.forall_mem_cons.mpr ⟨⟨fits_ofGlyphs _, ihv⟩, ihmembers⟩

/-- The value of a JSON text has a text. -/
theorem hasText_of_parse {glyphs : List Glyph} {v : Value} (hread : parse depthLimit glyphs = .ok v) : v.HasText := by
  obtain ⟨⟨first, last, -, hspells, -⟩, hdepth⟩ := spells_of_parse hread
  exact ⟨fits_of_spells hspells, hdepth⟩

/-- So has each item of an array. -/
theorem hasText_of_mem {glyphs : List Glyph} {values : List Value}
    (hread : parse depthLimit glyphs = .ok (.list values)) :
    ∀ v ∈ values, v.HasText := by
  obtain ⟨hfits, hdepth⟩ := hasText_of_parse hread
  have hitems := (Value.itemsNesting_le_iff values _).mp (Nat.le_of_succ_le hdepth)
  exact fun v hv => ⟨(Value.allFit_iff values).mp hfits v hv, hitems v hv⟩

end Json

end TableGateway
