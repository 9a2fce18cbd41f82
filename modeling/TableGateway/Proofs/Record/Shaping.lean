import TableGateway.Proofs.Key.Identity
import TableGateway.Proofs.Value.Setting

/-!
Copies of records with the generic field, made of such copies again. A second copy is the first one, unless the
generic field is one of several key fields: it then holds the whole identifier in the place of the value that the
record had there, and the identifier made of it is longer than the one it holds.
-/

namespace TableGateway

open TableGateway.Json

namespace Json

/-- The text of a list is no shorter than that of one of its items. -/
theorem length_render_le_of_mem (layout : Layout) {v : Value} {items : List Value} (hv : v ∈ items) :
    (render layout v).length ≤ (renderItems layout items).length := by
  cases items with
  | nil => cases hv
  | cons first rest =>
    induction rest generalizing first with
    | nil =>
      rw [List.mem_singleton.mp hv, renderItems, List.length_append]
      omega
    | cons next rest ih =>
      rw [renderItems, renderMoreItems_cons, List.length_append, List.length_append]
      rcases List.mem_cons.mp hv with rfl | hmem
      · omega
      · have htail := ih next hmem
        omega

theorem length_lt_quote (s : String) : s.toList.length < (quote s).length := by
  have hescaped := length_le_length_escaped s.toList
  simp only [quote, List.length_append, List.length_cons, List.length_nil]
  omega

end Json

namespace Key

variable {record : Fields Value} {key : PrimaryKey}

theorem fieldOrNull_put (record : Fields Value) (name other : String) (v : Value) :
    fieldOrNull (record.put name v) other = if name = other then v else fieldOrNull record other := by
  rw [fieldOrNull, Fields.get?_put]
  split
  · rfl
  · rfl

/-- A compound identifier is longer than every text among the key values. -/
theorem length_lt_compoundText {name s : String} (hname : name ∈ key) (hvalue : fieldOrNull record name = .text s) :
    s.toList.length < (compoundText record key).toList.length := by
  have hmem : Value.text s ∈ valuesIn record key := by
    rw [← hvalue]
    exact List.mem_map_of_mem hname
  have hitem : (quote s).length ≤ (renderItems compact (valuesIn record key)).length :=
    length_render_le_of_mem compact hmem
  have hquote := length_lt_quote s
  rw [compoundText, String.toList_ofList, render, List.length_append, List.length_cons]
  omega

/-- A field outside the key does not matter for the identifier. -/
theorem identify_put_of_not_mem {name : String} (hname : name ∉ key) (v : Value) :
    identify (record.put name v) key = identify record key := by
  apply identify_congr
  intro other hother
  rw [fieldOrNull_put, if_neg]
  rintro rfl
  exact hname hother

/-- An identifier that takes the place of a key value makes for another identifier. -/
theorem identify_put_of_mem {name : String} {id : Value} (hkey : isCompound key) (hname : name ∈ key)
    (hid : identify record key = .ok id) :
    ∃ again, identify (record.put name id) key = .ok again ∧ again ≠ id := by
  obtain ⟨hvet, rfl⟩ := (identify_eq_ok_iff hkey id).mp hid
  have hvalue : fieldOrNull (record.put name (.text (compoundText record key))) name =
      .text (compoundText record key) := by
    rw [fieldOrNull_put, if_pos rfl]
  refine ⟨_, (identify_eq_ok_iff hkey _).mpr ⟨fun other hother => ?_, rfl⟩, ?_⟩
  · rw [fieldOrNull_put]
    split
    · rfl
    · exact hvet other hother
  · intro hsame
    have hlonger := length_lt_compoundText hname hvalue
    rw [Value.text.inj hsame] at hlonger
    exact Nat.lt_irrefl _ hlonger

end Key

namespace Record

variable {row copy : Value} {key : PrimaryKey} {idField : String}

theorem withId_field (row : Value) (idField : String) : withId row [idField] idField = row.asRecord := by
  change (row.asRecord >>= fun copy => if [idField] = [idField] then Except.ok copy else _) = _
  cases row.asRecord with
  | error failure => rfl
  | ok copy => exact if_pos rfl

theorem withId_of_asRecord {taken : Value} {record : Fields Value} (hkey : key ≠ [idField])
    (htaken : row.asRecord = .ok taken) (hrow : row.fields? = some record) :
    withId row key idField = (Key.identify record key).map (taken.put idField) := by
  rw [withId, htaken]
  simp only [bind, Except.bind, if_neg hkey, Key.identifyValue_of_fields? hrow]
  cases Key.identify record key <;> rfl

/-- Only a map is copied with its identifier. -/
theorem fields?_of_withId (hkey : key ≠ [idField]) (hcopy : withId row key idField = .ok copy) :
    ∃ record, row.fields? = some record := by
  obtain ⟨taken, -, hrest⟩ := Sequence.bind_eq_ok_iff.mp hcopy
  rw [if_neg hkey] at hrest
  obtain ⟨id, hid, -⟩ := Sequence.bind_eq_ok_iff.mp hrest
  obtain ⟨record, hrecord, -⟩ := Sequence.bind_eq_ok_iff.mp hid
  rw [Value.fields] at hrecord
  cases hfields : row.fields? with
  | none =>
    rw [hfields] at hrecord
    cases hrecord
  | some fields => exact ⟨fields, rfl⟩

theorem find?_of_put {record : Fields Value} (hself : row.asRecord = .ok row) (hrow : row.fields? = some record)
    (name : String) (v : Value) : (row.put name v).find? name = .ok (some v) := by
  rw [find?_of_fields? (Value.fields?_put hself hrow name v), Fields.get?_put, if_pos rfl]

/-- A copy can always be copied again, and the second copy is the first one exactly when the generic field is not
one of several key fields. -/
theorem copy_of_copy_iff (hcopy : withId row key idField = .ok copy) :
    ∃ again, withId copy key idField = .ok again ∧ (again = copy ↔ (idField ∈ key → key = [idField])) := by
  by_cases hkey : key = [idField]
  · subst hkey
    rw [withId_field] at hcopy
    refine ⟨copy, ?_, ?_⟩
    · rw [withId_field, Value.asRecord_of_asRecord hcopy]
    · simp
  · obtain ⟨record, hrow⟩ := fields?_of_withId hkey hcopy
    obtain ⟨taken, htaken, hfields⟩ := Value.asRecord_of_fields? hrow
    have hself := Value.asRecord_of_asRecord htaken
    rw [withId_of_asRecord hkey htaken hrow] at hcopy
    obtain ⟨id, hid, rfl⟩ := Sequence.map_eq_ok_iff.mp hcopy
    rw [withId_of_asRecord hkey (Value.asRecord_put hself idField id) (Value.fields?_put hself hfields idField id)]
    by_cases hmem : idField ∈ key
    · have hcompound : Key.isCompound key := by
        by_contra hfield
        obtain ⟨name, rfl⟩ := Key.field_of_not_compound (List.ne_nil_of_mem hmem) (by simpa using hfield)
        rw [List.mem_singleton.mp hmem] at hkey
        exact hkey rfl
      obtain ⟨again, hagain, hother⟩ := Key.identify_put_of_mem hcompound hmem hid
      refine ⟨(taken.put idField id).put idField again, by rw [hagain]; rfl, ?_⟩
      rw [Value.put_put]
      constructor
      · intro hsame
        have hfound := congrArg (Value.find? · idField) hsame
        simp only [find?_of_put hself hfields] at hfound
        exact absurd (Option.some.inj (Except.ok.inj hfound)) hother
      · intro honly
        exact absurd (honly hmem) hkey
    · refine ⟨taken.put idField id, ?_, by simp [hmem]⟩
      rw [Key.identify_put_of_not_mem hmem, hid]
      exact congrArg Except.ok (Value.put_put taken idField id id)

/-- A row that has the generic field already, and lacks a field that its key repeats. -/
def stampedRow : Fields Value := [("id", .int 7), ("b", .text "x")]

theorem copy_of_copy_stampedRow :
    withId (.map stampedRow) ["a", "b", "a"] "id" = .ok (.map (stampedRow.put "id" (.text "[null,\"x\",null]"))) ∧
      withId (.map (stampedRow.put "id" (.text "[null,\"x\",null]"))) ["a", "b", "a"] "id" =
        .ok (.map (stampedRow.put "id" (.text "[null,\"x\",null]"))) := by
  have hcopy : withId (.map stampedRow) ["a", "b", "a"] "id" =
      .ok (.map (stampedRow.put "id" (.text "[null,\"x\",null]"))) := rfl
  obtain ⟨again, hagain, hiff⟩ := copy_of_copy_iff hcopy
  have hsame := hiff.mpr (by decide)
  rw [hsame] at hagain
  exact ⟨hcopy, hagain⟩

/-- A row whose generic field, here with the given value, is one of its two key fields. -/
def overlappingRow (id : Value) : Fields Value := [("id", id), ("b", .int 2)]

theorem withId_overlappingRow {id : Value} (hid : vet id (depthLimit - 1) = .ok ()) :
    withId (.map (overlappingRow id)) ["id", "b"] "id" =
      .ok (.map (overlappingRow (.text (Key.compoundText (overlappingRow id) ["id", "b"])))) := by
  have hrow : (Value.map (overlappingRow id)).fields? = some (overlappingRow id) := rfl
  have htwo : Data false (.int 2) := .int (withinDigitLimit_of_lt_ten (by decide))
  have hidentify : Key.identify (overlappingRow id) ["id", "b"] =
      .ok (.text (Key.compoundText (overlappingRow id) ["id", "b"])) := by
    refine (Key.identify_eq_ok_iff rfl _).mpr ⟨fun name hname => ?_, rfl⟩
    rcases List.mem_pair.mp hname with rfl | rfl
    · exact hid
    · exact vet_eq_ok_of_data htwo (Nat.zero_le _)
  rw [withId_of_asRecord (by simp) rfl hrow, hidentify]
  rfl

/-- Not every copy is its own copy: an identifier that stands in a key field becomes a value of the next one. -/
theorem copy_of_copy_overlappingRow :
    withId (.map [("id", .int 1), ("b", .int 2)]) ["id", "b"] "id" =
        .ok (.map [("id", .text "[1,2]"), ("b", .int 2)]) ∧
      withId (.map [("id", .text "[1,2]"), ("b", .int 2)]) ["id", "b"] "id" =
        .ok (.map [("id", .text "[\"[1,2]\",2]"), ("b", .int 2)]) ∧
      Value.map [("id", .text "[\"[1,2]\",2]"), ("b", .int 2)] ≠ .map [("id", .text "[1,2]"), ("b", .int 2)] := by
  have hone : Data false (.int 1) := .int (withinDigitLimit_of_lt_ten (by decide))
  have htext : Data false (.text "[1,2]") := .text _
  refine ⟨withId_overlappingRow (vet_eq_ok_of_data hone (Nat.zero_le _)),
    withId_overlappingRow (vet_eq_ok_of_data htext (Nat.zero_le _)), ?_⟩
  simp

end Record

end TableGateway
