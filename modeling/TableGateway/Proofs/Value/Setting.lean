import TableGateway.Proofs.Fields
import TableGateway.Value.Access

/-!
Setting a field of a map. A map with names of any kind behaves in the fields whose names are texts as the
collection of these fields does: a text names the entry under that text, and no other. What is once a record is
taken as that record again.
-/

namespace TableGateway.Value

/-- A text names the entries under values that are this text. -/
theorem sameName_text (v : Value) (name : String) : sameName v (.text name) = (v.text? == some name) := by
  cases v <;> simp [sameName, text?, amount?]

theorem putEntry_putEntry (pairs : List (Value × Value)) (name : String) (old value : Value) :
    putEntry (putEntry pairs (.text name) old) (.text name) value = putEntry pairs (.text name) value := by
  induction pairs with
  | nil => simp [putEntry, sameName_text, text?]
  | cons pair rest ih =>
    obtain ⟨n, v⟩ := pair
    by_cases hname : n.text? = some name
    · simp [putEntry, sameName_text, hname]
    · simp [putEntry, sameName_text, hname, ih]

/-- A field that is set twice has the later value. -/
theorem put_put (v : Value) (name : String) (old value : Value) :
    (v.put name old).put name value = v.put name value := by
  cases v with
  | map fields => exact congrArg Value.map (Fields.put_put fields name old value)
  | entries pairs => exact congrArg Value.entries (putEntry_putEntry pairs name old value)
  | _ => rfl

theorem textFields_putEntry (pairs : List (Value × Value)) (name : String) (value : Value) :
    (putEntry pairs (.text name) value).filterMap (fun pair => pair.1.text?.map (·, pair.2)) =
      Fields.put (pairs.filterMap fun pair => pair.1.text?.map (·, pair.2)) name value := by
  induction pairs with
  | nil => rfl
  | cons pair rest ih =>
    obtain ⟨n, v⟩ := pair
    cases htext : n.text? with
    | none => simp [putEntry, sameName_text, htext, ih]
    | some other =>
      by_cases hname : other = name
      · simp [putEntry, sameName_text, htext, hname, Fields.put]
      · simp [putEntry, sameName_text, htext, hname, Fields.put, ih]

/-- Setting a field of a record sets it among the fields whose names are texts. -/
theorem fields?_put {v : Value} {fields : Fields Value} (hself : v.asRecord = .ok v) (hv : v.fields? = some fields)
    (name : String) (value : Value) : (v.put name value).fields? = some (fields.put name value) := by
  cases v with
  | map _ =>
    cases hv
    rfl
  | entries pairs =>
    cases hv
    exact congrArg some (textFields_putEntry pairs name value)
  | view _ => cases hself
  | _ => cases hv

theorem asRecord_put {v : Value} (hself : v.asRecord = .ok v) (name : String) (value : Value) :
    (v.put name value).asRecord = .ok (v.put name value) := by
  cases v with
  | map _ => rfl
  | entries _ => rfl
  | _ => exact hself

theorem asRecord_ofPairs (pairs : List (Value × Value)) : (ofPairs pairs).asRecord = .ok (ofPairs pairs) := by
  unfold ofPairs
  split
  · rfl
  · rfl

/-- A record that was made of a value is a record. -/
theorem asRecord_of_asRecord {v record : Value} (hrecord : v.asRecord = .ok record) :
    record.asRecord = .ok record := by
  unfold asRecord at hrecord
  split at hrecord
  · cases hrecord
    rfl
  · cases hrecord
    rfl
  · cases hrecord
    rfl
  · obtain ⟨items, -, hpairs⟩ := Sequence.bind_eq_ok_iff.mp hrecord
    obtain ⟨pairs, -, hmade⟩ := Sequence.bind_eq_ok_iff.mp hpairs
    cases hmade
    exact asRecord_ofPairs pairs

/-- A value with fields is made into a record with just these fields. -/
theorem asRecord_of_fields? {v : Value} {fields : Fields Value} (hv : v.fields? = some fields) :
    ∃ record, v.asRecord = .ok record ∧ record.fields? = some fields := by
  cases v with
  | map fields => exact ⟨.map fields, rfl, hv⟩
  | entries pairs => exact ⟨.entries pairs, rfl, hv⟩
  | view fields => exact ⟨.map fields, rfl, hv⟩
  | _ => cases hv

end TableGateway.Value
