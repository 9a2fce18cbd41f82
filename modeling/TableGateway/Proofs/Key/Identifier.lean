import TableGateway.Proofs.Json.RoundTrip
import TableGateway.Proofs.Key.Decoding

/-!
Compound identifiers read back. The identifier of a record is the compact JSON array of its key values, and
decoding it gives these values as scalars, in key order, whatever the values hold. Lists and maps among the
values may lie inside each other as deep as there is room for where JSON texts are written and read, the array of the
identifier itself counted; a deeper value has no identifier, which the record with `nestedLists` shows.
-/

namespace TableGateway

open TableGateway.Json TableGateway.Number TableGateway.Text
open TableGateway.Operation (Identifier)

namespace Key

/-- The key values of a record, in key order. -/
def valuesIn (record : Fields Value) (key : PrimaryKey) : List Value := key.map (fieldOrNull record)

/-- The text of a compound identifier. -/
def compoundText (record : Fields Value) (key : PrimaryKey) : String :=
  String.ofList (render compact (.list (valuesIn record key)))

theorem data_valuesIn {record : Fields Value} {key : PrimaryKey}
    (hdata : ∀ name ∈ key, Data false (fieldOrNull record name)) :
    Data false (.list (valuesIn record key)) := by
  apply Data.list
  intro v hv
  obtain ⟨name, hname, rfl⟩ := List.mem_map.mp hv
  exact hdata name hname

/-- There is room for the array of the identifier around the key values. -/
theorem nesting_valuesIn_le_iff {record : Fields Value} {key : PrimaryKey} :
    (Value.list (valuesIn record key)).nesting ≤ depthLimit ↔
      ∀ name ∈ key, (fieldOrNull record name).nesting < depthLimit := by
  have hpos : depthLimit = 989 + 1 := rfl
  rw [Value.nesting, hpos, Nat.add_le_add_iff_right, Value.itemsNesting_le_iff]
  simp [valuesIn, Nat.lt_succ_iff]

/-- The identifier of a record is written if there is room for its key values. -/
theorem identifyValue_compound {row : Value} {record : Fields Value} {key : PrimaryKey}
    (hkey : isCompound key) (hrow : row.fields? = some record)
    (hdata : ∀ name ∈ key, Data false (fieldOrNull record name)) :
    identifyValue row key =
      if ∀ name ∈ key, (fieldOrNull record name).nesting < depthLimit then .ok (.text (compoundText record key))
      else .error .tooDeep := by
  have hfields : row.fields = .ok record := by rw [Value.fields, hrow]
  have hwrite := write_of_data (data_valuesIn hdata) compact
  simp only [nesting_valuesIn_le_iff] at hwrite
  rw [identifyValue, hfields]
  change identify record key = _
  unfold identify
  rw [if_pos hkey]
  change Except.map _ (write compact (.list (valuesIn record key))) = _
  rw [hwrite]
  split <;> rfl

theorem read_compoundText {record : Fields Value} {key : PrimaryKey}
    (hdata : ∀ name ∈ key, Data false (fieldOrNull record name)) :
    Json.read (compoundText record key) =
      if ∀ name ∈ key, (fieldOrNull record name).nesting < depthLimit then .ok (.list (valuesIn record key))
      else .error .tooDeep := by
  rw [compoundText, read_render compact_legible (data_valuesIn hdata)]
  simp only [nesting_valuesIn_le_iff]

theorem decode_compoundText {record : Fields Value} {key : PrimaryKey} (hkey : isCompound key)
    (hdata : ∀ name ∈ key, Data false (fieldOrNull record name)) :
    decode (.text (compoundText record key)) key =
      if ∀ name ∈ key, (fieldOrNull record name).nesting < depthLimit then
        .ok ((valuesIn record key).map Value.scalar)
      else .error .tooDeep := by
  have hlength : (valuesIn record key).length = key.length := List.length_map _
  have hread := read_compoundText hdata
  by_cases hdepth : ∀ name ∈ key, (fieldOrNull record name).nesting < depthLimit
  · rw [if_pos hdepth] at hread ⊢
    exact @decode_array key (Identifier.text _) hkey rfl _ hread hlength
  · rw [if_neg hdepth] at hread ⊢
    exact @decode_tooDeep key (Identifier.text _) hkey rfl hread

/-- Decoding the identifier of a record gives its key values as scalars in key order, if they are not nested deeper than
values are written and read; in particular texts come back unchanged. -/
theorem decode_identify {row : Value} {record : Fields Value} {key : PrimaryKey} (hkey : isCompound key)
    (hrow : row.fields? = some record) (hdata : ∀ name ∈ key, Data false (fieldOrNull record name)) :
    (identifyValue row key >>= fun id => decode id key) =
        (if ∀ name ∈ key, (fieldOrNull record name).nesting < depthLimit then
          .ok (key.map fun name => (fieldOrNull record name).scalar)
        else .error .tooDeep) ∧
      ∀ texts : List String, key.map record.get? = texts.map (fun s => some (.text s)) →
        (identifyValue row key >>= fun id => decode id key) = .ok (texts.map glyphsOf) := by
  have hcomposed : (identifyValue row key >>= fun id => decode id key) =
      if ∀ name ∈ key, (fieldOrNull record name).nesting < depthLimit then .ok ((valuesIn record key).map Value.scalar)
      else .error .tooDeep := by
    rw [identifyValue_compound hkey hrow hdata]
    have hdecode := decode_compoundText hkey hdata
    split
    · next hdepth =>
      rw [if_pos hdepth] at hdecode
      exact hdecode
    · rfl
  refine ⟨?_, fun texts htexts => ?_⟩
  · rw [hcomposed, valuesIn, List.map_map]
    rfl
  · have hvalues : valuesIn record key = texts.map .text := by
      have hfield : fieldOrNull record = fun name => (record.get? name).getD .null := rfl
      have hdefault := congrArg (List.map fun v? => v?.getD Value.null) htexts
      simpa [valuesIn, hfield, Function.comp_def] using hdefault
    have hdepth : ∀ name ∈ key, (fieldOrNull record name).nesting < depthLimit := by
      intro name hname
      have hmem : fieldOrNull record name ∈ texts.map Value.text := by
        rw [← hvalues]
        exact List.mem_map_of_mem hname
      obtain ⟨s, -, hs⟩ := List.mem_map.mp hmem
      rw [← hs]
      exact (by decide : 0 < depthLimit)
    rw [hcomposed, if_pos hdepth, hvalues, List.map_map]
    rfl

/-- A text that needs every kind of escape, and a list. -/
def escapesRecord : Fields Value :=
  [("a", .text "\"\\\n\x00é😀"), ("b", .list [.null, .bool true, .int (-7)])]

theorem decode_identify_escapesRecord :
    isCompound ["a", "b", "a"] = true ∧
      (∀ name ∈ ["a", "b", "a"], Data false (fieldOrNull escapesRecord name)) ∧
      (identifyValue (.map escapesRecord) ["a", "b", "a"] >>= fun id => decode id ["a", "b", "a"]) =
        .ok (["\"\\\n\x00é😀", "[None, True, -7]", "\"\\\n\x00é😀"].map glyphsOf) := by
  have hdata : ∀ name ∈ ["a", "b", "a"], Data false (fieldOrNull escapesRecord name) := by
    have hitems : ∀ v ∈ [Value.null, .bool true, .int (-7)], Data false v := by
      simp only [List.mem_cons, List.not_mem_nil, or_false, forall_eq_or_imp, forall_eq]
      exact ⟨.null, .bool true, .int (withinDigitLimit_of_lt_ten (by decide))⟩
    intro name hname
    simp only [List.mem_cons, List.not_mem_nil, or_false] at hname
    rcases hname with rfl | rfl | rfl
    · exact .text _
    · exact .list hitems
    · exact .text _
  have hrow : (Value.map escapesRecord).fields? = some escapesRecord := rfl
  have hdecode := (decode_identify rfl hrow hdata).1
  rw [if_pos (by decide)] at hdecode
  refine ⟨rfl, hdata, hdecode.trans (congrArg Except.ok ?_)⟩
  decide +kernel

/-- A record whose first key value is as deep as given. -/
def deepRecord (levels : Nat) : Fields Value := [("a", Value.nestedLists levels), ("b", .int 1)]

theorem data_deepRecord (levels : Nat) : ∀ name ∈ ["a", "b"], Data false (fieldOrNull (deepRecord levels) name) := by
  intro name hname
  rcases List.mem_pair.mp hname with rfl | rfl
  · exact data_nestedLists levels
  · exact .int (withinDigitLimit_of_lt_ten (by decide))

theorem deepRecord_too_deep (levels : Nat) (hlevels : depthLimit ≤ levels + 1) :
    ¬ ∀ name ∈ ["a", "b"], Value.nesting (fieldOrNull (deepRecord levels) name) < depthLimit := by
  intro hall
  have hfirst : Value.nesting (Value.nestedLists levels) < depthLimit := hall "a" (by simp)
  rw [Value.nesting_nestedLists] at hfirst
  omega

/-- The text that would be its identifier is that of an array with two values, but one that is given up for its
depth. -/
theorem spellsBeyond_deepRecord (levels : Nat) (hlevels : depthLimit ≤ levels + 1) :
    (Identifier.text (compoundText (deepRecord levels) ["a", "b"])).SpellsBeyond ["a", "b"] := by
  have hdata := data_deepRecord levels
  have hread := read_compoundText hdata
  rw [if_neg (deepRecord_too_deep levels hlevels)] at hread
  let values := valuesIn (deepRecord levels) ["a", "b"]
  have hparse := parse_render compact_legible (data_valuesIn hdata) (Value.list values).nesting
  rw [if_pos (Nat.le_refl _)] at hparse
  have htext : glyphsOf (compoundText (deepRecord levels) ["a", "b"]) = asGlyphs (render compact (.list values)) := by
    rw [compoundText, glyphsOf, String.toList_ofList]
  exact ⟨hread, (Value.list values).nesting, values, htext ▸ hparse, rfl⟩

theorem identifyValue_deepRecord (levels : Nat) (hlevels : depthLimit ≤ levels + 1) :
    identifyValue (.map (deepRecord levels)) ["a", "b"] = .error .tooDeep := by
  rw [identifyValue_compound rfl rfl (data_deepRecord levels), if_neg (deepRecord_too_deep levels hlevels)]

/-- Not every record of JSON values has an identifier, let alone one that is read back: here lists lie 1200 deep in a
value of a compound key. -/
theorem deep_identifier_not_read_back :
    isCompound ["a", "b"] = true ∧
      (∀ name ∈ ["a", "b"], Data false (fieldOrNull (deepRecord 1199) name)) ∧
      (identifyValue (.map (deepRecord 1199)) ["a", "b"] >>= fun id => decode id ["a", "b"]) =
        .error .tooDeep :=
  ⟨rfl, data_deepRecord 1199, congrArg (· >>= _) (identifyValue_deepRecord 1199 (by decide))⟩

end Key

end TableGateway
