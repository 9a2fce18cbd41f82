import TableGateway.Proofs.Json.Brackets
import TableGateway.Proofs.Json.RoundTrip
import TableGateway.Proofs.Key.Decoding

/-!
Which identifiers a compound key accepts. These are the JSON texts of arrays with one value for each field, whatever
blanks and escapes they are spelt with; the grammar tells which texts these are. All other texts are refused, and so are
all integers. An integer beyond the digit limit is refused in another way: it cannot even be shown in the message that
refuses it.
-/

namespace TableGateway.Key

open TableGateway.Json TableGateway.Number TableGateway.Text
open TableGateway.Operation (Identifier)

section

variable {key : PrimaryKey} {s : String}

theorem decode_of_jsonText (hkey : isCompound key) (hshallow : shallow false depthLimit (glyphsOf s))
    {values : List Value} (hspelt : JsonText s (.list values)) (hlength : values.length = key.length) :
    decode (.text s) key = .ok (values.map Value.scalar) :=
  @decode_array key (Identifier.text s) hkey rfl _ ((read_eq_ok_iff hshallow).mpr hspelt) hlength

theorem decode_not_spelt (hkey : isCompound key) (hshallow : shallow false depthLimit (glyphsOf s))
    (hspelt : ¬ ∃ values, JsonText s (.list values) ∧ values.length = key.length) :
    decode (.text s) key = .error (.identifier (.text s) (key.map .text)) := by
  apply @decode_not_spells key (Identifier.text s) hkey rfl _ (read_ne_tooDeep hshallow)
  rintro ⟨values, hread, hlength⟩
  exact hspelt ⟨values, jsonText_of_read hread, hlength⟩

theorem read_intText {n : Int} (hn : withinDigitLimit n) : Json.read (intText n) = .ok (.int n) := by
  have hread := read_render compact_legible (Data.int hn)
  have hflat : Value.nesting (.int n) ≤ depthLimit := Nat.zero_le _
  rwa [if_pos hflat] at hread

theorem decode_int (hkey : isCompound key) (n : Int) :
    decode (.int n) key =
      .error (if withinDigitLimit n then .identifier (.int n) (key.map .text) else .integerTooLong) := by
  by_cases hn : withinDigitLimit n
  · have hread : Json.read (Identifier.int n).toValue.display = .ok (.int n) := read_intText hn
    have hdecode := @decode_identifier key (Identifier.int n) hkey hn
    rw [hread] at hdecode
    rw [if_pos hn]
    exact hdecode
  · have hfitting : (Value.int n).fitting = .error .integerTooLong := by
      rw [Value.fitting, Value.inspect, if_neg hn]
      rfl
    rw [if_neg hn, decode, valuesOf, if_pos hkey, hfitting]
    rfl

/-- A compound key accepts just the texts that spell an array with one value for each field, and decodes them to these
values as scalars, however they are spelt. Any other text is refused by name, and so is every integer that can be
written. -/
theorem compound_accepts_iff (hkey : isCompound key) (hshallow : shallow false depthLimit (glyphsOf s)) :
    (∀ row, decode (.text s) key = .ok row ↔
      ∃ values, JsonText s (.list values) ∧ values.length = key.length ∧ row = values.map Value.scalar) ∧
    ((∀ row, decode (.text s) key ≠ .ok row) →
      decode (.text s) key = .error (.identifier (.text s) (key.map .text))) ∧
    (∀ t values, shallow false depthLimit (glyphsOf t) → JsonText s (.list values) → JsonText t (.list values) →
      values.length = key.length → decode (.text t) key = decode (.text s) key) ∧
    ∀ n, decode (.int n) key =
      .error (if withinDigitLimit n then .identifier (.int n) (key.map .text) else .integerTooLong) := by
  have hspelling {values : List Value} (hspelt : JsonText s (.list values)) (hlength : values.length = key.length) :=
    decode_of_jsonText hkey hshallow hspelt hlength
  have hrefused := decode_not_spelt hkey hshallow
  refine ⟨fun row => ⟨fun hrow => ?_, ?_⟩, fun hnone => hrefused ?_, ?_, decode_int hkey⟩
  · by_cases hspelt : ∃ values, JsonText s (.list values) ∧ values.length = key.length
    · obtain ⟨values, hvalues, hlength⟩ := hspelt
      rw [hspelling hvalues hlength] at hrow
      exact ⟨values, hvalues, hlength, (Except.ok.inj hrow).symm⟩
    · rw [hrefused hspelt] at hrow
      cases hrow
  · rintro ⟨values, hspelt, hlength, rfl⟩
    exact hspelling hspelt hlength
  · rintro ⟨values, hspelt, hlength⟩
    exact hnone _ (hspelling hspelt hlength)
  · intro t values ht hspelt hrespelt hlength
    rw [hspelling hspelt hlength]
    exact decode_of_jsonText hkey ht hrespelt hlength

/-- An array with blanks, an escape and a number that is none. -/
def spacedText : String := " [ NaN ,\n\"\\u0041\" ]\t"

theorem compound_accepts_iff_spacedText :
    isCompound ["a", "b"] ∧ shallow false depthLimit (glyphsOf spacedText) ∧
      (∃ values, JsonText spacedText (.list values) ∧ values.map Value.scalar = ["nan", "A"].map glyphsOf) ∧
      decode (.int 7) ["a", "b"] = .error (.identifier (.int 7) [.text "a", .text "b"]) := by
  have hshallow : shallow false depthLimit (glyphsOf spacedText) := by decide +kernel
  have hrow : decode (.text spacedText) ["a", "b"] = .ok (["nan", "A"].map glyphsOf) :=
    Sequence.eq_ok_of_toOption (by decide +kernel)
  have hkey : isCompound ["a", "b"] := rfl
  obtain ⟨haccepts, -, -, hintegers⟩ := compound_accepts_iff hkey hshallow
  obtain ⟨values, hspelt, -, hscalars⟩ := (haccepts _).mp hrow
  have hseven : withinDigitLimit 7 := withinDigitLimit_of_lt_ten (by decide)
  refine ⟨rfl, hshallow, ⟨values, hspelt, hscalars.symm⟩, (hintegers 7).trans ?_⟩
  rw [if_pos hseven]
  rfl

/-- An integer that is too long to be shown is not refused as what it is. -/
theorem long_integer_not_named :
    isCompound ["a", "b"] ∧ decode (.int (10 ^ 5000)) ["a", "b"] = .error .integerTooLong ∧
      decode (.int (10 ^ 5000)) ["a", "b"] ≠ .error (.identifier (.int (10 ^ 5000)) [.text "a", .text "b"]) := by
  have hlong : ¬ withinDigitLimit (10 ^ 5000) := not_withinDigitLimit_pow (by decide)
  have hdecode : decode (.int (10 ^ 5000)) ["a", "b"] = .error .integerTooLong := by
    rw [decode_int rfl, if_neg hlong]
  refine ⟨rfl, hdecode, ?_⟩
  rw [hdecode]
  nofun

end

end TableGateway.Key
