import TableGateway.Json.Encoding
import TableGateway.Proofs.Json.RoundTrip

/-!
JSON texts that arrive as bytes. Without a null character there is no zero byte to tell another encoding by, and
what is read is the text behind its byte order mark. Brackets that open too many levels are given up whatever
stands behind them.
-/

namespace TableGateway.Json

open TableGateway.Text

/-- What stands behind a byte order mark, or the whole text when it does not begin with one. -/
def withoutMark (s : String) : String :=
  match s.toList with
  | '\uFEFF' :: rest => String.ofList rest
  | _ => s

theorem withoutMark_of_mark {s : String} {rest : List Char} (hmark : s.toList = '\uFEFF' :: rest) :
    withoutMark s = String.ofList rest := by
  simp only [withoutMark, hmark]

theorem withoutMark_of_no_mark {s : String} (hmark : ∀ rest, s.toList ≠ '\uFEFF' :: rest) : withoutMark s = s := by
  rw [withoutMark]
  split
  · next rest hrest => exact absurd hrest (hmark rest)
  · rfl

theorem ne_zero_of_mem_utf8EncodeChar {c : Char} (hc : c ≠ '\x00') {byte : UInt8}
    (hbyte : byte ∈ String.utf8EncodeChar c) : byte ≠ 0 := by
  have hpos : c.val.toNat ≠ 0 := fun hzero => hc (Char.ext (UInt32.toNat_inj.mp hzero))
  rintro rfl
  -- A single byte is the code itself; all bytes of a longer form are at least 128.
  unfold String.utf8EncodeChar at hbyte
  dsimp only at hbyte
  split_ifs at hbyte <;>
    simp only [List.mem_cons, List.not_mem_nil, or_false, ← UInt8.toNat_inj, UInt8.toNat_ofNat',
      UInt8.toNat_zero] at hbyte <;>
    omega

theorem ne_zero_of_mem_bytes {s : String} (hs : '\x00' ∉ s.toList) {byte : UInt8}
    (hbyte : byte ∈ s.toUTF8.data.toList) : byte ≠ 0 := by
  have hbytes : s.toUTF8.data.toList = s.toList.flatMap String.utf8EncodeChar := by
    rw [String.toUTF8, ← String.utf8Encode_toList, List.utf8Encode, List.toList_data_toByteArray]
  rw [hbytes] at hbyte
  obtain ⟨c, hc, hmem⟩ := List.mem_flatMap.mp hbyte
  have hne : c ≠ '\x00' := fun heq => hs (heq ▸ hc)
  exact ne_zero_of_mem_utf8EncodeChar hne hmem

theorem detect_of_ne_zero {bytes : List UInt8} (hbytes : ∀ byte ∈ bytes, byte ≠ 0) :
    Encoding.detect bytes = .utf8 := by
  rcases bytes with _ | ⟨a, _ | ⟨b, _ | ⟨c, _ | ⟨d, rest⟩⟩⟩⟩ <;> simp_all [Encoding.detect]

/-- A text without null characters is read as UTF-8. -/
theorem readBytes_eq_read {s : String} (hs : '\x00' ∉ s.toList) : readBytes s = read (withoutMark s) := by
  have hdetect : Encoding.detect s.toUTF8.data.toList = .utf8 :=
    detect_of_ne_zero fun byte hbyte => ne_zero_of_mem_bytes hs hbyte
  rw [readBytes]
  split
  · next rest hmark => rw [withoutMark_of_mark hmark, read, glyphsOf, String.toList_ofList]
  · next hmark =>
    rw [withoutMark_of_no_mark hmark]
    simp only [hdetect]
    rfl

/-- Brackets that open one level too many are given up, whatever follows them. -/
theorem readValue_brackets {fuel depth : Nat} (hfuel : 2 * depth < fuel) (rest : List Glyph) :
    readValue fuel depth (List.replicate (depth + 1) (.char '[') ++ rest) = .error .tooDeep := by
  induction depth generalizing fuel with
  | zero =>
    obtain ⟨fuel, rfl⟩ := Nat.exists_eq_add_of_lt hfuel
    rfl
  | succ depth ih =>
    obtain ⟨fuel, rfl⟩ : ∃ n, fuel = n + 1 + 1 := ⟨fuel - 2, by omega⟩
    have hinner := readItems_error (@ih fuel (by omega))
    simp only [List.replicate_succ, List.cons_append] at hinner ⊢
    simp [readValue, skipBlanks, isBlank, hinner, Except.map]

/-- Brackets that are never closed are no JSON text, however much room a reader has. -/
theorem readValue_unclosed (fuel depth count : Nat) :
    ∃ fault, readValue fuel depth (List.replicate count (.char '[')) = .error fault := by
  induction count generalizing fuel depth with
  | zero => cases fuel <;> exact ⟨.malformed, rfl⟩
  | succ count ih =>
    cases fuel with
    | zero => exact ⟨.malformed, rfl⟩
    | succ fuel =>
      cases depth with
      | zero => exact ⟨.tooDeep, rfl⟩
      | succ depth =>
        have hitems : ∃ fault, readItems fuel depth (List.replicate count (.char '[')) = .error fault := by
          cases fuel with
          | zero => exact ⟨.malformed, rfl⟩
          | succ fuel =>
            obtain ⟨fault, hfault⟩ := ih fuel depth
            exact ⟨fault, readItems_error hfault⟩
        obtain ⟨fault, hfault⟩ := hitems
        refine ⟨fault, ?_⟩
        cases count with
        | zero =>
          simp only [List.replicate_zero] at hfault
          simp [readValue, skipBlanks, hfault, Except.map]
        | succ count =>
          simp only [List.replicate_succ] at hfault ⊢
          simp [readValue, skipBlanks, isBlank, hfault, Except.map]

/-- So many brackets that are never closed. -/
def brackets (count : Nat) : String := String.ofList (List.replicate count '[')

theorem glyphsOf_brackets (count : Nat) : glyphsOf (brackets count) = List.replicate count (.char '[') := by
  rw [glyphsOf, brackets, String.toList_ofList, List.map_replicate]

theorem skipBlanks_brackets (count : Nat) :
    skipBlanks (List.replicate count (.char '[')) = List.replicate count (.char '[') := by
  cases count <;> rfl

theorem withoutMark_brackets (count : Nat) : withoutMark (brackets count) = brackets count := by
  rw [withoutMark, brackets, String.toList_ofList]
  cases count <;> rfl

theorem parse_brackets (depth count : Nat) (v : Value) : parse depth (glyphsOf (brackets count)) ≠ .ok v := by
  rw [glyphsOf_brackets, parse, skipBlanks_brackets]
  obtain ⟨fault, hfault⟩ := readValue_unclosed (2 * (List.replicate count (Glyph.char '[')).length + 2) depth count
  rw [hfault]
  simp

theorem read_brackets {count : Nat} (hcount : depthLimit < count) : read (brackets count) = .error .tooDeep := by
  obtain ⟨more, rfl⟩ := Nat.exists_eq_add_of_lt hcount
  have hmany : List.replicate (depthLimit + more + 1) (Glyph.char '[') =
      List.replicate (depthLimit + 1) (.char '[') ++ List.replicate more (.char '[') := by
    rw [List.replicate_append_replicate]
    congr 1
    omega
  have hlength : 2 * depthLimit < 2 * (List.replicate (depthLimit + more + 1) (Glyph.char '[')).length + 2 := by
    rw [List.length_replicate]
    omega
  have hgiven := readValue_brackets hlength (List.replicate more (.char '['))
  rw [← hmany] at hgiven
  rw [read, glyphsOf_brackets, parse, skipBlanks_brackets, hgiven]

end TableGateway.Json
