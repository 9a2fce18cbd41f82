import TableGateway.Form
import TableGateway.Proofs.Sequence
import TableGateway.Proofs.Text.Joined

/-!
Form-encoded queries are read back without loss: the parameters that a query was made of, in their order,
whatever characters their names and values hold. A byte is read back wherever its escape stands, and since an
escape is made of kept characters, plus and percent signs alone, a query falls apart at the marks that were put
between its parts.
-/

namespace TableGateway.Form

open TableGateway.Number TableGateway.Text

-- There are only 256 bytes, so that what one character can be is checked for each of them.
theorem kept_byte {byte : UInt8} (hkept : isKept (Char.ofNat byte.toNat)) :
    String.utf8EncodeChar (Char.ofNat byte.toNat) = [byte] ∧
      Char.ofNat byte.toNat ∉ ['+', '%', '&', '='] := by
  have hall : ∀ n : Fin 256, isKept (Char.ofNat n.val) →
      String.utf8EncodeChar (Char.ofNat n.val) = [UInt8.ofNat n.val] ∧
        Char.ofNat n.val ∉ ['+', '%', '&', '='] := by
    decide +kernel
  have hbyte := hall ⟨byte.toNat, byte.toNat_lt⟩ hkept
  simpa using hbyte

theorem space_byte {byte : UInt8} (hspace : Char.ofNat byte.toNat = ' ') : byte = 0x20 := by
  have hall : ∀ n : Fin 256, Char.ofNat n.val = ' ' → UInt8.ofNat n.val = 0x20 := by decide +kernel
  have hbyte := hall ⟨byte.toNat, byte.toNat_lt⟩ hspace
  simpa using hbyte

theorem hexValue?_upper {n : Nat} (hn : n < 16) : hexValue? (hexDigit n).toUpper = some n := by
  have hall : ∀ m : Fin 16, hexValue? (hexDigit m).toUpper = some m.val := by decide
  exact hall ⟨n, hn⟩

theorem isKept_upper_hexDigit {n : Nat} (hn : n < 16) : isKept (hexDigit n).toUpper := by
  have hall : ∀ m : Fin 16, isKept (hexDigit m).toUpper := by decide
  exact hall ⟨n, hn⟩

theorem unescapeBytes_plain {c : Char} (hplus : c ≠ '+') (hpercent : c ≠ '%') (rest : List Char) :
    unescapeBytes (c :: rest) = String.utf8EncodeChar c ++ unescapeBytes rest := by
  rw [unescapeBytes]
  · exact hplus
  · exact fun _ _ _ h _ => hpercent h

theorem unescapeBytes_percent {a b : Char} {high low : Nat} (ha : hexValue? a = some high)
    (hb : hexValue? b = some low) (rest : List Char) :
    unescapeBytes ('%' :: a :: b :: rest) = UInt8.ofNat (high * 16 + low) :: unescapeBytes rest := by
  rw [unescapeBytes, ha, hb]

/-- The escape of a byte is read back as that byte. -/
theorem unescapeBytes_escapeByte (byte : UInt8) (rest : List Char) :
    unescapeBytes (escapeByte byte ++ rest) = byte :: unescapeBytes rest := by
  have hlt := byte.toNat_lt
  simp only [escapeByte]
  split
  · next hspace =>
    rw [space_byte hspace]
    rfl
  split
  · next hkept =>
    obtain ⟨hbytes, hmarks⟩ := kept_byte hkept
    simp only [List.mem_cons, List.not_mem_nil, or_false, not_or] at hmarks
    rw [List.singleton_append, unescapeBytes_plain hmarks.1 hmarks.2.1, hbytes]
    rfl
  · have hhigh := hexValue?_upper (Nat.mod_lt (byte.toNat / 16) (by omega))
    have hlow := hexValue?_upper (Nat.mod_lt byte.toNat (by omega))
    have hvalue : byte.toNat / 16 % 16 * 16 + byte.toNat % 16 = byte.toNat := by omega
    have hread := unescapeBytes_percent hhigh hlow rest
    rw [hvalue, UInt8.ofNat_toNat] at hread
    exact hread

theorem unescapeBytes_escapes (bytes : List UInt8) : unescapeBytes (bytes.flatMap escapeByte) = bytes := by
  induction bytes with
  | nil => rfl
  | cons byte bytes ih => rw [List.flatMap_cons, unescapeBytes_escapeByte, ih]

theorem unescape?_escape (s : String) : unescape? (escape s) = some s := by
  have hbytes : (⟨(bytesOf s).toArray⟩ : ByteArray) = s.toByteArray := rfl
  rw [unescape?, escape, unescapeBytes_escapes, hbytes, String.fromUTF8?, dif_pos s.isValidUTF8]
  rfl

/-- What an escaped text is made of. -/
theorem mem_escapeByte {byte : UInt8} {c : Char} (hc : c ∈ escapeByte byte) : isKept c ∨ c = '+' ∨ c = '%' := by
  simp only [escapeByte] at hc
  split at hc
  · exact .inr (.inl (List.mem_singleton.mp hc))
  split at hc
  · next hkept =>
    rw [List.mem_singleton.mp hc]
    exact .inl hkept
  · have hdigits : (hexDigits 2 byte.toNat).map Char.toUpper =
        [(hexDigit (byte.toNat / 16 % 16)).toUpper, (hexDigit (byte.toNat % 16)).toUpper] := rfl
    rw [hdigits] at hc
    simp only [List.mem_cons, List.not_mem_nil, or_false] at hc
    rcases hc with rfl | rfl | rfl
    · exact .inr (.inr rfl)
    · exact .inl (isKept_upper_hexDigit (Nat.mod_lt _ (by omega)))
    · exact .inl (isKept_upper_hexDigit (Nat.mod_lt _ (by omega)))

theorem mem_escape {s : String} {c : Char} (hc : c ∈ escape s) : isKept c ∨ c = '+' ∨ c = '%' := by
  obtain ⟨byte, -, hbyte⟩ := List.mem_flatMap.mp hc
  exact mem_escapeByte hbyte

theorem marks_not_mem_escape (s : String) : '&' ∉ escape s ∧ '=' ∉ escape s :=
  ⟨fun hmem => absurd (mem_escape hmem) (by decide), fun hmem => absurd (mem_escape hmem) (by decide)⟩

theorem unescapeField?_escapeField (field : String × String) :
    unescapeField? (escapeField field) = some field := by
  have hcut : cut ['='] (escapeField field) = some (escape field.1, escape field.2) :=
    (cut_singleton_eq_some_iff '=' _ _ _).mpr ⟨(marks_not_mem_escape field.1).2, rfl⟩
  rw [unescapeField?, hcut]
  simp only [unescape?_escape]

theorem ampersand_not_mem_escapeField (field : String × String) : '&' ∉ escapeField field := by
  rw [escapeField, List.mem_append, List.mem_cons, not_or, not_or]
  exact ⟨(marks_not_mem_escape field.1).1, by decide, (marks_not_mem_escape field.2).1⟩

theorem encode_ne_empty {fields : Fields String} (hfields : fields ≠ []) : encode fields ≠ "" := by
  obtain ⟨field, rest, rfl⟩ := List.exists_cons_of_ne_nil hfields
  intro hempty
  have hchars : ['&'].intercalate ((field :: rest).map escapeField) = [] := by
    have htoList := congrArg String.toList hempty
    simpa [encode] using htoList
  have hmark : '=' ∈ ['&'].intercalate ((field :: rest).map escapeField) := by
    cases rest with
    | nil => simp [escapeField]
    | cons next rest => simp [List.intercalate_cons_cons, escapeField]
  rw [hchars] at hmark
  exact absurd hmark (by simp)

/-- The characters of queries. -/
def isWritten (c : Char) : Bool := isKept c || c == '+' || c == '%' || c == '=' || c == '&'

theorem isWritten_of_mem_encode {fields : Fields String} {c : Char} (hc : c ∈ (encode fields).toList) :
    isWritten c := by
  have hescape {s : String} (hs : c ∈ escape s) : isWritten c := by
    rcases mem_escape hs with hkept | rfl | rfl
    · simp [isWritten, hkept]
    · rfl
    · rfl
  rw [encode, String.toList_ofList] at hc
  rcases mem_intercalate hc with rfl | ⟨part, hpart, hmem⟩
  · rfl
  · obtain ⟨field, -, rfl⟩ := List.mem_map.mp hpart
    rw [escapeField, List.mem_append, List.mem_cons] at hmem
    rcases hmem with hname | rfl | hvalue
    · exact hescape hname
    · rfl
    · exact hescape hvalue

/-- The parameters of a query are read back in their order, whatever they hold. -/
theorem decode?_encode (fields : Fields String) : decode? (encode fields) = some fields := by
  by_cases hfields : fields = []
  · rw [hfields]
    rfl
  · have hnonempty : (encode fields).isEmpty = false := by
      simpa [String.isEmpty_iff] using encode_ne_empty hfields
    have hsplit : (encode fields).toList.splitOn '&' = fields.map escapeField := by
      rw [encode, String.toList_ofList]
      apply List.splitOn_intercalate
      · intro part hpart
        obtain ⟨field, -, rfl⟩ := List.mem_map.mp hpart
        exact ampersand_not_mem_escapeField field
      · simpa using hfields
    rw [decode?, hnonempty, hsplit]
    simp only [Bool.false_eq_true, if_false]
    rw [Sequence.mapM_eq_some_iff, List.forall₂_map_left_iff, List.forall₂_same]
    exact fun field _ => unescapeField?_escapeField field

theorem encode_injective {fields fields' : Fields String} (hquery : encode fields = encode fields') :
    fields = fields' := by
  have hread := congrArg decode? hquery
  rw [decode?_encode, decode?_encode] at hread
  exact Option.some.inj hread

end TableGateway.Form
