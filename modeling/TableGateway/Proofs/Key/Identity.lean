import TableGateway.Proofs.Key.Identifier
import TableGateway.Proofs.Record

/-!
Identifiers tell records apart. Two records have the same identifier exactly when they have the same key values,
where values of different kinds are never the same: under a compound key the number 1 and the text "1" are decoded
alike, and still their identifiers differ. Under a compound key a value that lies too deep keeps a record from having
one. Nothing but the key fields matters, so that what is left of a record when all other fields are dropped keeps its
identifier.
-/

namespace TableGateway

open TableGateway.Json TableGateway.Number

namespace Key

theorem identifyValue_of_fields? {row : Value} {record : Fields Value} (hrow : row.fields? = some record)
    (key : PrimaryKey) : identifyValue row key = identify record key := by
  have hfields : row.fields = .ok record := by rw [Value.fields, hrow]
  rw [identifyValue, hfields]
  rfl

/-- An identifier depends on the key values alone. -/
theorem identify_congr {record record' : Fields Value} {key : PrimaryKey}
    (hsame : ∀ name ∈ key, fieldOrNull record name = fieldOrNull record' name) :
    identify record key = identify record' key := by
  have hvalues : key.map (fieldOrNull record) = key.map (fieldOrNull record') := List.map_congr_left hsame
  unfold identify
  rw [hvalues]
  cases key with
  | nil => rfl
  | cons name rest =>
    have hfirst := hsame name List.mem_cons_self
    simp only [hfirst]

section

variable {record record' : Fields Value} {key : PrimaryKey}

/-- There is a compound identifier when every key value can be written inside the array of the identifier. -/
theorem identify_eq_ok_iff (hkey : isCompound key) (id : Value) :
    identify record key = .ok id ↔
      (∀ name ∈ key, vet (fieldOrNull record name) (depthLimit - 1) = .ok ()) ∧
        id = .text (compoundText record key) := by
  have hvet : vet (.list (valuesIn record key)) depthLimit = .ok () ↔
      ∀ name ∈ key, vet (fieldOrNull record name) (depthLimit - 1) = .ok () := by
    change vetItems (valuesIn record key) (depthLimit - 1) = .ok () ↔ _
    rw [vetItems_eq_ok_iff, valuesIn, List.forall_mem_map]
  have hwrite (s : String) := write_eq_ok_iff compact (.list (valuesIn record key)) s
  unfold identify
  rw [if_pos hkey, Sequence.map_eq_ok_iff]
  constructor
  · rintro ⟨s, hs, rfl⟩
    obtain ⟨hvetted, rfl⟩ := (hwrite s).mp hs
    exact ⟨hvet.mp hvetted, rfl⟩
  · rintro ⟨hvetted, rfl⟩
    exact ⟨_, (hwrite _).mpr ⟨hvet.mpr hvetted, rfl⟩, rfl⟩

/-- There is an identifier, compound or not, when every key value can be written. -/
theorem exists_identify (hkey : key ≠ [])
    (hvet : isCompound key → ∀ name ∈ key, vet (fieldOrNull record name) (depthLimit - 1) = .ok ()) :
    ∃ id, identify record key = .ok id := by
  cases hcompound : isCompound key with
  | true => exact ⟨_, (identify_eq_ok_iff hcompound _).mpr ⟨hvet hcompound, rfl⟩⟩
  | false =>
    obtain ⟨name, rfl⟩ := field_of_not_compound hkey hcompound
    exact ⟨fieldOrNull record name, rfl⟩

theorem identify_eq_ok {doubles : Bool} (hkey : key ≠ [])
    (hdata : ∀ name ∈ key, Data doubles (fieldOrNull record name))
    (hdepth : isCompound key → ∀ name ∈ key, (fieldOrNull record name).nesting < depthLimit) :
    ∃ id, identify record key = .ok id := by
  refine exists_identify hkey fun hcompound name hname => ?_
  exact vet_eq_ok_of_data (hdata name hname) (Nat.le_sub_one_of_lt (hdepth hcompound name hname))

theorem valuesIn_of_compoundText (hdata : ∀ name ∈ key, Data false (fieldOrNull record name))
    (hdata' : ∀ name ∈ key, Data false (fieldOrNull record' name))
    (htext : compoundText record key = compoundText record' key) : valuesIn record key = valuesIn record' key := by
  have hrender := String.ofList_injective htext
  have hlists := render_injective compact_legible (data_valuesIn hdata) (data_valuesIn hdata') hrender
  exact Value.list.inj hlists

/-- Records with one identifier have the same key values. -/
theorem values_of_identify (hkey : key ≠ []) (hdata : ∀ name ∈ key, Data false (fieldOrNull record name))
    (hdata' : ∀ name ∈ key, Data false (fieldOrNull record' name)) {id : Value}
    (hid : identify record key = .ok id) (hid' : identify record' key = .ok id) :
    ∀ name ∈ key, fieldOrNull record name = fieldOrNull record' name := by
  cases hcompound : isCompound key with
  | true =>
    obtain ⟨-, rfl⟩ := (identify_eq_ok_iff hcompound id).mp hid
    obtain ⟨-, htext⟩ := (identify_eq_ok_iff hcompound _).mp hid'
    exact List.map_inj_left.mp (valuesIn_of_compoundText hdata hdata' (Value.text.inj htext))
  | false =>
    obtain ⟨field, rfl⟩ := field_of_not_compound hkey hcompound
    intro name hname
    rw [List.mem_singleton.mp hname]
    exact Except.ok.inj (hid.trans hid'.symm)

end

/-- Dropping all other fields of a record does not change its identifier, also when it has none. -/
theorem identifyValue_keyFields {row : Value} {record : Fields Value} (hrow : row.fields? = some record)
    (key : PrimaryKey) :
    (Record.keyFields key row >>= fun kept => identifyValue (.map kept) key) = identifyValue row key := by
  obtain ⟨kept, hkept⟩ : ∃ kept, Record.keyFields key row = .ok kept := ⟨_, Record.keyFields_of_fields? hrow key⟩
  have hsame : ∀ name ∈ key, fieldOrNull kept name = fieldOrNull record name := by
    intro name hname
    rw [fieldOrNull, fieldOrNull, Record.get?_of_keyFields hrow hkept hname]
  rw [hkept, identifyValue_of_fields? hrow, ← identify_congr hsame]
  rfl

/-- Two records have the same identifier exactly when they have the same value, of the same kind, in every field
of the key, and the key fields of a record alone have the identifier of the whole record. Under a compound key the
values must leave room for the array of the identifier. -/
theorem same_identifier_iff_same_values {row row' : Value} {record record' : Fields Value} {key : PrimaryKey}
    (hkey : key ≠ []) (hrow : row.fields? = some record) (hrow' : row'.fields? = some record')
    (hdata : ∀ name ∈ key, Data false (fieldOrNull record name))
    (hdata' : ∀ name ∈ key, Data false (fieldOrNull record' name))
    (hdepth : isCompound key → ∀ name ∈ key, (fieldOrNull record name).nesting < depthLimit)
    (hdepth' : isCompound key → ∀ name ∈ key, (fieldOrNull record' name).nesting < depthLimit) :
    (∃ id id', identifyValue row key = .ok id ∧ identifyValue row' key = .ok id' ∧
        (id = id' ↔ ∀ name ∈ key, fieldOrNull record name = fieldOrNull record' name)) ∧
      ∀ (any : Value) (fields : Fields Value), any.fields? = some fields →
        (Record.keyFields key any >>= fun kept => identifyValue (.map kept) key) = identifyValue any key := by
  refine ⟨?_, fun any fields hany => identifyValue_keyFields hany key⟩
  obtain ⟨id, hid⟩ := identify_eq_ok hkey hdata hdepth
  obtain ⟨id', hid'⟩ := identify_eq_ok hkey hdata' hdepth'
  refine ⟨id, id', ?_, ?_, ?_⟩
  · rw [identifyValue_of_fields? hrow, hid]
  · rw [identifyValue_of_fields? hrow', hid']
  · constructor
    · rintro rfl
      exact values_of_identify hkey hdata hdata' hid hid'
    · intro hsame
      have heq := identify_congr hsame
      rw [hid, hid'] at heq
      exact Except.ok.inj heq

/-- A record with a number, and with the text of the number, in its first key field. -/
def numbered (first : Value) : Fields Value := [("a", first), ("c", .null), ("b", .list [.bool true, .text ","])]

theorem same_identifier_iff_same_values_numbered :
    ["a", "b", "d"] ≠ [] ∧
      (∀ name ∈ ["a", "b", "d"], Data false (fieldOrNull (numbered (.int 1)) name)) ∧
      (∀ name ∈ ["a", "b", "d"], Data false (fieldOrNull (numbered (.text "1")) name)) ∧
      (∀ name ∈ ["a", "b", "d"], (fieldOrNull (numbered (.int 1)) name).nesting < depthLimit) ∧
      (∀ name ∈ ["a", "b", "d"], (fieldOrNull (numbered (.text "1")) name).nesting < depthLimit) ∧
      (Value.map (numbered (.int 1))).fields? = some (numbered (.int 1)) ∧
      (Value.map (numbered (.text "1"))).fields? = some (numbered (.text "1")) ∧
      identifyValue (.map (numbered (.int 1))) ["a", "b", "d"] ≠
        identifyValue (.map (numbered (.text "1"))) ["a", "b", "d"] := by
  have hkey : ["a", "b", "d"] ≠ [] := by simp
  have hlist : Data false (.list [.bool true, .text ","]) := by
    apply Data.list
    simp only [List.mem_cons, List.not_mem_nil, or_false, forall_eq_or_imp, forall_eq]
    exact ⟨.bool true, .text ","⟩
  have hdata {first : Value} (hfirst : Data false first) :
      ∀ name ∈ ["a", "b", "d"], Data false (fieldOrNull (numbered first) name) := by
    simp only [List.mem_cons, List.not_mem_nil, or_false, forall_eq_or_imp, forall_eq]
    exact ⟨hfirst, hlist, .null⟩
  have hone : withinDigitLimit 1 := withinDigitLimit_of_lt_ten (by decide)
  have hnumber := hdata (.int hone)
  have htext := hdata (.text "1")
  have hrow (first : Value) : (Value.map (numbered first)).fields? = some (numbered first) := rfl
  have hnumber_depth : ∀ name ∈ ["a", "b", "d"], (fieldOrNull (numbered (.int 1)) name).nesting < depthLimit := by
    decide
  have htext_depth : ∀ name ∈ ["a", "b", "d"], (fieldOrNull (numbered (.text "1")) name).nesting < depthLimit := by
    decide
  refine ⟨hkey, hnumber, htext, hnumber_depth, htext_depth, rfl, rfl, ?_⟩
  obtain ⟨⟨id, id', hid, hid', hiff⟩, -⟩ := same_identifier_iff_same_values hkey (hrow (.int 1)) (hrow (.text "1"))
    hnumber htext (fun _ => hnumber_depth) (fun _ => htext_depth)
  rw [hid, hid']
  intro hsame
  have hfirst := hiff.mp (Except.ok.inj hsame) "a" List.mem_cons_self
  cases hfirst

/-- JSON data alone do not give a record an identifier: a value that lies 1200 deep leaves no room for the array. -/
theorem deep_record_without_identifier :
    (Value.map (deepRecord 1199)).fields? = some (deepRecord 1199) ∧
      (∀ name ∈ ["a", "b"], Data false (fieldOrNull (deepRecord 1199) name)) ∧
      ∀ id, identifyValue (.map (deepRecord 1199)) ["a", "b"] ≠ .ok id := by
  refine ⟨rfl, data_deepRecord 1199, fun id => ?_⟩
  rw [identifyValue_deepRecord 1199 (by decide)]
  nofun

end Key

end TableGateway
