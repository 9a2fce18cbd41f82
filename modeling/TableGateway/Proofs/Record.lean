import TableGateway.Proofs.Fields
import TableGateway.Record

/-!
Records and the data that are sent for them. The identifier of a record stands in the generic field of its copy,
also when that field is the key itself, and nothing is sent for a change that is not in the caller's data.
-/

namespace TableGateway.Record

variable {key : PrimaryKey} {idField : String}

theorem find?_of_fields? {row : Value} {record : Fields Value} (hrow : row.fields? = some record) (name : String) :
    row.find? name = .ok (record.get? name) := by
  cases row with
  | map fields =>
    cases hrow
    rfl
  | entries pairs =>
    cases hrow
    rfl
  | view fields =>
    cases hrow
    rfl
  | _ => cases hrow

theorem keyFields_of_fields? {row : Value} {record : Fields Value} (hrow : row.fields? = some record)
    (key : PrimaryKey) :
    keyFields key row =
      .ok (Fields.ofPairs ((key.map fun name => (name, record.get? name)).filterMap
        fun field => field.2.map (field.1, ·))) := by
  have hfound : (key.mapM fun name => do return (name, ← row.find? name)) =
      (.ok (key.map fun name => (name, record.get? name)) : Except Failure _) := by
    apply Sequence.mapM_eq_ok_map
    intro name _
    rw [find?_of_fields? hrow]
    rfl
  rw [keyFields, hfound]
  rfl

theorem keyFields_map (key : PrimaryKey) (data : Fields Value) :
    keyFields key (.map data) =
      .ok (Fields.ofPairs ((key.map fun name => (name, data.get? name)).filterMap
        fun field => field.2.map (field.1, ·))) :=
  keyFields_of_fields? rfl key

/-- The key fields of a record have the values that they have in the record. -/
theorem get?_of_keyFields {row : Value} {record kept : Fields Value} (hrow : row.fields? = some record)
    (hkept : keyFields key row = .ok kept) {name : String} (hname : name ∈ key) :
    kept.get? name = record.get? name := by
  rw [keyFields_of_fields? hrow] at hkept
  have hpairs := Except.ok.inj hkept
  cases hget : kept.get? name with
  | some v =>
    have hmem := Fields.mem_of_get? hget
    rw [← hpairs] at hmem
    obtain ⟨found, hfound, hsome⟩ := List.mem_filterMap.mp (Fields.mem_ofPairs hmem)
    obtain ⟨other, -, rfl⟩ := List.mem_map.mp hfound
    obtain ⟨w, hw, hfield⟩ := Option.map_eq_some_iff.mp hsome
    cases hfield
    exact hw.symm
  | none =>
    have hfresh := (Fields.get?_eq_none_iff kept name).mp hget
    rw [← hpairs, Fields.mem_names_ofPairs] at hfresh
    cases hrecord : record.get? name with
    | none => rfl
    | some w =>
      -- A field of the key that the record has is among the pairs that are kept.
      refine absurd (List.mem_map.mpr ⟨(name, w), List.mem_filterMap.mpr ?_, rfl⟩) hfresh
      exact ⟨(name, record.get? name), List.mem_map_of_mem hname, by simp [hrecord]⟩

theorem get?_of_mem_keyFields {data fields : Fields Value} (hkeys : keyFields key (.map data) = .ok fields)
    {field : String × Value} (hfield : field ∈ fields) : field.1 ∈ key ∧ data.get? field.1 = some field.2 := by
  rw [keyFields_map] at hkeys
  cases hkeys
  obtain ⟨found, hfound, hsome⟩ := List.mem_filterMap.mp (Fields.mem_ofPairs hfield)
  obtain ⟨name, hname, rfl⟩ := List.mem_map.mp hfound
  obtain ⟨v, hv, rfl⟩ := Option.map_eq_some_iff.mp hsome
  exact ⟨hname, hv⟩

theorem withoutId_sublist (data : Fields Value) (key : PrimaryKey) (idField : String) :
    (withoutId data key idField).Sublist data := by
  rw [withoutId]
  split
  · exact List.Sublist.refl data
  · exact List.filter_sublist

/-- Leaving out the generic field never leaves out a key field. -/
theorem get?_withoutId_of_mem (data : Fields Value) (idField : String) {name : String} (hname : name ∈ key) :
    (withoutId data key idField).get? name = data.get? name := by
  rw [withoutId]
  split
  · rfl
  · next hfree =>
    rw [Fields.get?_erase, if_neg]
    rintro rfl
    exact hfree hname

/-- The key fields among some data are sent for a change anyway. -/
theorem merge_keyFields {data fields : Fields Value} (hkeys : keyFields key (.map data) = .ok fields)
    (idField : String) : (withoutId data key idField).merge fields = withoutId data key idField := by
  apply Fields.merge_of_get?
  intro field hfield
  obtain ⟨hname, hget⟩ := get?_of_mem_keyFields hkeys hfield
  rw [get?_withoutId_of_mem data idField hname, hget]

theorem withId_map (row : Fields Value) (key : PrimaryKey) (idField : String) :
    withId (.map row) key idField =
      if key = [idField] then .ok (.map row)
      else (Key.identify row key).map fun id => .map (row.put idField id) := by
  change (if key = [idField] then Except.ok (Value.map row)
    else Key.identify row key >>= fun id => Except.ok (Value.map (row.put idField id))) = _
  cases Key.identify row key <;> rfl

/-- A copy holds the identifier of the record in the generic field, and is like the record in all others. -/
theorem exists_copy {row : Fields Value} {id : Value} (hid : Key.identify row key = .ok id)
    (hpresent : ∀ name ∈ key, name ∈ row.names) (idField : String) :
    ∃ copy : Fields Value, withId (.map row) key idField = .ok (.map copy) ∧ copy.get? idField = some id ∧
      ∀ name, name ≠ idField → copy.get? name = row.get? name := by
  rw [withId_map, hid]
  by_cases hkey : key = [idField]
  · subst hkey
    rw [if_pos rfl]
    refine ⟨row, rfl, ?_, fun name _ => rfl⟩
    have hfound : Key.fieldOrNull row idField = id := Except.ok.inj hid
    cases hget : row.get? idField with
    | none =>
      have habsent := (Fields.get?_eq_none_iff row idField).mp hget
      exact absurd (hpresent idField List.mem_cons_self) habsent
    | some v =>
      rw [Key.fieldOrNull, hget] at hfound
      exact congrArg some hfound
  · rw [if_neg hkey]
    refine ⟨row.put idField id, rfl, ?_, fun name hname => ?_⟩
    · rw [Fields.get?_put, if_pos rfl]
    · rw [Fields.get?_put, if_neg (Ne.symm hname)]

/-- The generic field of a copy holds the identifier of the record. -/
theorem find?_of_withId {row : Fields Value} {id : Value} (hid : Key.identify row key = .ok id)
    (hpresent : ∀ name ∈ key, name ∈ row.names) (idField : String) :
    ∃ copy, withId (.map row) key idField = .ok copy ∧ copy.find? idField = .ok (some id) := by
  obtain ⟨copy, hcopy, hfield, -⟩ := exists_copy hid hpresent idField
  exact ⟨.map copy, hcopy, congrArg Except.ok hfield⟩

end TableGateway.Record
