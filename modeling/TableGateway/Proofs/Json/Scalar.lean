import TableGateway.Proofs.Json.Data
import TableGateway.Proofs.Json.Tokens

/-!
Integers and strings as they are written. The numeral of an integer within the digit limit spells that integer; a longer
numeral is refused by the reader, so that the limit is needed on this side as well.

Whatever characters a string holds, its quoted form spells that string and ends at its closing quote. A character above
U+FFFF is spelt by the escapes of its two halves, neither of which may be mistaken for a lone surrogate.
-/

namespace TableGateway.Json

open TableGateway.Number TableGateway.Text

/-- What may stand behind a value: nothing, or a mark that ends it. -/
def EndsValue (rest : List Glyph) : Prop :=
  ∀ glyph ∈ rest.head?, glyph = .char ',' ∨ glyph = .char ']' ∨ glyph = .char '\x7d'

theorem endsValue_nil : EndsValue [] := by
  intro glyph hmem
  simp at hmem

theorem ends_of_endsValue {rest : List Glyph} (hrest : EndsValue rest) : Ends rest := by
  intro glyph hglyph
  rcases hrest glyph hglyph with rfl | rfl | rfl
  · exact ⟨',', by decide, rfl⟩
  · exact ⟨']', by decide, rfl⟩
  · exact ⟨'\x7d', by decide, rfl⟩

/-- The first digit of a positive number is no zero. -/
theorem head?_natDigits_ne_zero {n : Nat} (hn : 0 < n) : (natDigits n).head? ≠ some '0' := by
  induction n using Nat.strongRecOn with
  | ind n ih =>
    rw [natDigits, Nat.toDigits_eq_if (by omega)]
    split
    · next hlt =>
      have hdigit : ∀ m : Fin 10, 0 < m.val → Nat.digitChar m ≠ '0' := by decide
      simpa using hdigit ⟨n, hlt⟩ hn
    · next hge =>
      have hhead := ih (n / 10) (by omega) (by omega)
      rw [natDigits] at hhead
      cases hcs : Nat.toDigits 10 (n / 10) with
      | nil => exact absurd hcs Nat.toDigits_ne_nil
      | cons c cs => simpa [hcs] using hhead

theorem isDigit_of_mem_natDigits {n : Nat} {c : Char} (hc : c ∈ natDigits n) : c.isDigit :=
  Nat.isDigit_of_mem_toDigits (by omega) (by omega) hc

theorem whole_natDigits (n : Nat) : Whole (natDigits n) := by
  rcases Nat.eq_zero_or_pos n with rfl | hn
  · exact .inl rfl
  · exact .inr ⟨⟨Nat.toDigits_ne_nil, fun _ hc => isDigit_of_mem_natDigits hc⟩, head?_natDigits_ne_zero hn⟩

theorem length_natDigits_le_iff (n : Int) :
    (natDigits n.natAbs).length ≤ digitLimit ↔ withinDigitLimit n := by
  rw [withinDigitLimit_iff, natDigits, Nat.length_toDigits_le_iff (by omega) (by decide)]

/-- The numeral of an integer spells the integer. -/
theorem numeral_intDigits {n : Int} (hn : withinDigitLimit n) : Numeral (intDigits n) (.int n) := by
  have hsize := (length_natDigits_le_iff n).mpr hn
  have hvalue (m : Nat) : natOfDigits (natDigits m) = m := Nat.ofDigitChars_ten_toDigits
  cases n with
  | ofNat m =>
    have hnumeral := Numeral.integer false (whole_natDigits m) hsize
    rwa [hvalue] at hnumeral
  | negSucc m =>
    have hnumeral := Numeral.integer true (whole_natDigits (m + 1)) hsize
    rwa [hvalue] at hnumeral

/-- A numeral begins with a digit, or with a minus sign and a digit. -/
theorem intDigits_eq_cons (n : Int) :
    ∃ c cs, intDigits n = c :: cs ∧ (c.isDigit ∨ c = '-' ∧ ∃ d ds, cs = d :: ds ∧ d.isDigit) := by
  have hdigits (m : Nat) : ∃ c cs, natDigits m = c :: cs ∧ c.isDigit := by
    cases hcs : natDigits m with
    | nil => exact absurd hcs Nat.toDigits_ne_nil
    | cons c cs => exact ⟨c, cs, rfl, isDigit_of_mem_natDigits (n := m) (by simp [hcs])⟩
  cases n with
  | ofNat m =>
    obtain ⟨c, cs, hcs, hc⟩ := hdigits m
    exact ⟨c, cs, hcs, .inl hc⟩
  | negSucc m =>
    obtain ⟨c, cs, hcs, hc⟩ := hdigits (m + 1)
    exact ⟨'-', c :: cs, by rw [intDigits, hcs], .inr ⟨rfl, c, cs, rfl, hc⟩⟩

theorem ne_of_intDigits_eq_cons {n : Int} {c d : Char} {cs : List Char} (hcs : intDigits n = c :: cs)
    (hdigit : d.isDigit = false) (hminus : d ≠ '-') : c ≠ d := by
  obtain ⟨c', cs', hcs', hfirst⟩ := intDigits_eq_cons n
  obtain ⟨rfl, -⟩ := List.cons.inj (hcs.symm.trans hcs')
  rcases hfirst with hc | ⟨rfl, -⟩
  · exact ne_of_isDigit hc hdigit
  · exact hminus.symm

theorem codeUnit_hexDigits {unit : Nat} (hunit : unit < 0x10000) (rest : List Glyph) :
    CodeUnit (asGlyphs (hexDigits 4 unit) ++ rest) unit rest := by
  have hdigit (n : Nat) : hexValue? (hexDigit (n % 16)) = some (n % 16) :=
    hexValue?_hexDigit (Nat.mod_lt n (by omega))
  have hspelt := CodeUnit.digits (hdigit (unit / 16 / 16 / 16)) (hdigit (unit / 16 / 16)) (hdigit (unit / 16))
    (hdigit unit) rest
  have hsum :
      ((unit / 16 / 16 / 16 % 16 * 16 + unit / 16 / 16 % 16) * 16 + unit / 16 % 16) * 16 + unit % 16 = unit := by
    omega
  rwa [hsum] at hspelt

/-- The escape of a unit that is no surrogate spells its character. -/
theorem inside_escapeUnit {unit : Nat} (hunit : unit < 0xD800 ∨ 0xE000 ≤ unit ∧ unit < 0x10000) (rest : List Glyph) :
    Inside (asGlyphs (escapeUnit unit) ++ rest) (.char (Char.ofNat unit)) rest := by
  have hhigh : isHighSurrogate unit = false := by simp [isHighSurrogate]; omega
  have hlow : isLowSurrogate unit = false := by simp [isLowSurrogate]; omega
  exact .unit (codeUnit_hexDigits (by omega) rest) hhigh hlow

/-- Two escaped halves of a pair spell the one character that they join to. -/
theorem inside_pair {high low : Nat} (hhigh : isHighSurrogate high) (hlow : isLowSurrogate low) (rest : List Glyph) :
    Inside (asGlyphs (escapeUnit high ++ escapeUnit low) ++ rest) (.char (joinSurrogates high low)) rest := by
  have hhigh_lt : high < 0x10000 := by simp [isHighSurrogate] at hhigh; omega
  have hlow_lt : low < 0x10000 := by simp [isLowSurrogate] at hlow; omega
  rw [asGlyphs, List.map_append, List.append_assoc]
  exact .pair (codeUnit_hexDigits hhigh_lt _) hhigh ⟨_, rfl, codeUnit_hexDigits hlow_lt rest, hlow⟩

/-- The character that the two halves of its own code join to. -/
theorem joinSurrogates_halves {c : Char} (hc : 0x10000 ≤ c.toNat) :
    joinSurrogates (0xD800 + (c.toNat - 0x10000) / 0x400) (0xDC00 + (c.toNat - 0x10000) % 0x400) = c := by
  have hcode : 0x10000 + (0xD800 + (c.toNat - 0x10000) / 0x400 - 0xD800) * 0x400 +
      (0xDC00 + (c.toNat - 0x10000) % 0x400 - 0xDC00) = c.toNat := by omega
  rw [joinSurrogates, hcode, Char.ofNat_toNat]

/-- One character, escaped or not, is spelt by what is written for it. -/
theorem inside_escapeChar (c : Char) (rest : List Glyph) : Inside (asGlyphs (escapeChar c) ++ rest) (.char c) rest := by
  have hvalid : c.toNat < 0xD800 ∨ 0xE000 ≤ c.toNat ∧ c.toNat < 0x110000 := by
    have h := c.valid
    simp [UInt32.isValidChar, Nat.isValidChar] at h
    exact h
  unfold escapeChar
  -- The seven escapes of two characters; behind them plain ASCII, escapes of one unit, and pairs.
  iterate 7 (split; · subst_vars; exact .short (by decide) rest)
  split
  · next hquote hescape _ _ _ _ _ hplain => exact .plain hquote hescape hplain.1 rest
  split
  · next hbmp =>
    have hunit : c.toNat < 0xD800 ∨ 0xE000 ≤ c.toNat ∧ c.toNat < 0x10000 := by omega
    have hspelt := inside_escapeUnit hunit rest
    rwa [Char.ofNat_toNat] at hspelt
  · next hlarge =>
    have hhigh : isHighSurrogate (0xD800 + (c.toNat - 0x10000) / 0x400) := by
      simp [isHighSurrogate]; omega
    have hlow : isLowSurrogate (0xDC00 + (c.toNat - 0x10000) % 0x400) := by
      simp [isLowSurrogate]; omega
    have hspelt := inside_pair hhigh hlow rest
    rwa [joinSurrogates_halves (by omega)] at hspelt

/-- No character is written with a quote in front, so that the first quote is the closing one. -/
theorem escapeChar_eq_cons (c : Char) : ∃ d ds, escapeChar c = d :: ds ∧ d ≠ '"' := by
  unfold escapeChar
  split
  · exact ⟨'\\', _, rfl, by decide⟩
  · next hne =>
    iterate 6 (split; · exact ⟨'\\', _, rfl, by decide⟩)
    split
    · exact ⟨c, _, rfl, hne⟩
    split
    · exact ⟨'\\', _, rfl, by decide⟩
    · exact ⟨'\\', _, rfl, by decide⟩

theorem length_le_length_escaped (cs : List Char) : cs.length ≤ (cs.flatMap escapeChar).length := by
  induction cs with
  | nil => simp
  | cons c cs ih =>
    obtain ⟨d, ds, hd, -⟩ := escapeChar_eq_cons c
    simp only [List.flatMap_cons, hd, List.length_append, List.length_cons]
    omega

/-- The characters of a string are spelt one by one up to the closing quote. -/
theorem quoted_escaped (cs : List Char) (rest : List Glyph) :
    Quoted (asGlyphs (cs.flatMap escapeChar) ++ .char '"' :: rest) (asGlyphs cs) rest := by
  induction cs with
  | nil => exact .close rest
  | cons c cs ih =>
    rw [List.flatMap_cons, asGlyphs, List.map_append, List.append_assoc]
    exact .more (inside_escapeChar c _) ih

theorem ofGlyphs_asGlyphs (s : String) : Value.ofGlyphs (asGlyphs s.toList) = .text s := by
  rw [Value.ofGlyphs, textOf?_map_char, String.ofList_toList]
  rfl

/-- A quoted string is read back behind its opening quote. -/
theorem readString_escaped (s : String) (rest : List Glyph) :
    readString (asGlyphs (s.toList.flatMap escapeChar) ++ .char '"' :: rest) = some (.text s, rest) :=
  readString_eq_some_iff.mpr ⟨_, quoted_escaped s.toList rest, (ofGlyphs_asGlyphs s).symm⟩

end TableGateway.Json
