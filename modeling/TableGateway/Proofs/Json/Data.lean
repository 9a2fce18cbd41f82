import Mathlib.Algebra.Group.Int.Defs
import Mathlib.Algebra.Group.Nat.Defs
import TableGateway.Json.Writer
import TableGateway.Proofs.Sequence
import TableGateway.Proofs.Value.Nesting

/-!
The values that JSON texts stand for, apart from the other values that callers may pass in. Names inside a
map are distinct, as they are in every map that was built by setting fields, and integers stay within the
digit limit. Doubles are JSON values too, but their texts are not read back here, so that the predicate
tells whether they are allowed.

Nothing but its depth keeps such a value from being written: it has a JSON text exactly when the writer has room
for its nesting.
-/

namespace TableGateway.Json

open TableGateway.Number

/-- A JSON value; doubles may be part of it if `doubles` says so. -/
inductive Data (doubles : Bool) : Value → Prop where
  | null : Data doubles .null
  | bool (b : Bool) : Data doubles (.bool b)
  | int {n : Int} (hn : withinDigitLimit n) : Data doubles (.int n)
  | float (x : Binary64) (hdoubles : doubles = true) : Data doubles (.float x)
  | text (s : String) : Data doubles (.text s)
  | list {items : List Value} (hitems : ∀ v ∈ items, Data doubles v) : Data doubles (.list items)
  | map {fields : Fields Value} (hnames : fields.names.Nodup)
      (hfields : ∀ field ∈ fields, Data doubles field.2) : Data doubles (.map fields)

theorem withinDigitLimit_iff (n : Int) : withinDigitLimit n ↔ n.natAbs < 10 ^ digitLimit := by
  rw [withinDigitLimit, decide_eq_true_eq, Nat.pow_eq]

theorem withinDigitLimit_of_lt {n : Int} (digits : Nat) (hdigits : digits ≤ digitLimit)
    (hn : n.natAbs < 10 ^ digits) : withinDigitLimit n := by
  have hlimit : 10 ^ digits ≤ 10 ^ digitLimit := Nat.pow_le_pow_right (by omega) hdigits
  rw [withinDigitLimit_iff]
  omega

theorem withinDigitLimit_of_lt_ten {n : Int} (hn : n.natAbs < 10) : withinDigitLimit n := by
  have hone : 1 ≤ digitLimit := by decide
  exact withinDigitLimit_of_lt 1 hone (by omega)

theorem not_withinDigitLimit_pow {digits : Nat} (hdigits : digitLimit ≤ digits) :
    ¬ withinDigitLimit (10 ^ digits) := by
  rw [withinDigitLimit_iff, Int.natAbs_pow]
  exact Nat.not_lt.mpr (Nat.pow_le_pow_right (by decide) hdigits)

theorem data_nestedLists {doubles : Bool} (levels : Nat) : Data doubles (Value.nestedLists levels) := by
  induction levels with
  | zero => exact .list (by simp)
  | succ levels ih => exact .list (by simpa using ih)

/-- A map of which fields are left out is JSON data again, and lies no deeper. -/
theorem data_of_sublist {doubles : Bool} {kept fields : Fields Value} (hkept : kept.Sublist fields)
    (hdata : Data doubles (.map fields)) :
    Data doubles (.map kept) ∧ Value.nesting (.map kept) ≤ Value.nesting (.map fields) := by
  cases hdata with
  | map hnames hfields =>
    constructor
    · exact .map (hnames.sublist (hkept.map _)) fun field hfield => hfields field (hkept.subset hfield)
    · rw [Value.nesting, Value.nesting, Nat.add_le_add_iff_right, Value.fieldsNesting_le_iff]
      intro field hfield
      exact (Value.fieldsNesting_le_iff fields _).mp Nat.le.refl field (hkept.subset hfield)

/-- Going deeper needs room for one more level. -/
theorem deeper_of_ite {depth levels : Nat} {go : Nat → Except Failure Unit}
    (hgo : ∀ room, go room = if levels ≤ room then .ok () else .error .tooDeep) :
    deeper depth go = if levels + 1 ≤ depth then .ok () else .error .tooDeep := by
  cases depth with
  | zero => rfl
  | succ room => simp only [deeper, hgo, Nat.add_le_add_iff_right]

theorem bind_of_ite (one other depth : Nat) :
    ((if one ≤ depth then .ok () else .error .tooDeep : Except Failure Unit) >>= fun _ =>
        if other ≤ depth then .ok () else .error .tooDeep) =
      if max one other ≤ depth then .ok () else .error .tooDeep := by
  simp only [Nat.max_le]
  by_cases hone : one ≤ depth
  · simp only [hone, true_and, if_true]
    rfl
  · simp only [hone, false_and, if_false]
    rfl

theorem vetItems_of_ite {items : List Value} {depth : Nat}
    (hitems : ∀ v ∈ items, vet v depth = if v.nesting ≤ depth then .ok () else .error .tooDeep) :
    vetItems items depth = if Value.itemsNesting items ≤ depth then .ok () else .error .tooDeep := by
  induction items with
  | nil => rfl
  | cons v items ih =>
    obtain ⟨hv, hitems⟩ := List.forall_mem_cons.mp hitems
    rw [vetItems, hv, ih hitems, Value.itemsNesting]
    exact bind_of_ite _ _ depth

theorem vetFields_of_ite {fields : Fields Value} {depth : Nat}
    (hfields : ∀ field ∈ fields, vet field.2 depth = if field.2.nesting ≤ depth then .ok () else .error .tooDeep) :
    vetFields fields depth = if Value.fieldsNesting fields ≤ depth then .ok () else .error .tooDeep := by
  induction fields with
  | nil => rfl
  | cons field fields ih =>
    obtain ⟨name, v⟩ := field
    obtain ⟨hv, hfields⟩ := List.forall_mem_cons.mp hfields
    rw [vetFields, hv, ih hfields, Value.fieldsNesting]
    exact bind_of_ite _ _ depth

theorem vetItems_eq_ok_iff (items : List Value) (depth : Nat) :
    vetItems items depth = .ok () ↔ ∀ v ∈ items, vet v depth = .ok () := by
  induction items with
  | nil => simp [vetItems]
  | cons v items ih => rw [vetItems, Sequence.then_eq_ok_iff, ih, List.forall_mem_cons]

/-- JSON data has a JSON text if there is room for it. -/
theorem vet_of_data {doubles : Bool} {v : Value} (hv : Data doubles v) (depth : Nat) :
    vet v depth = if v.nesting ≤ depth then .ok () else .error .tooDeep := by
  induction hv generalizing depth with
  | int hn => simp [vet, hn, Value.nesting]
  | list _ ih => exact deeper_of_ite fun room => vetItems_of_ite fun v hv => ih v hv room
  | map _ _ ih => exact deeper_of_ite fun room => vetFields_of_ite fun field hfield => ih field hfield room
  | _ => rfl

/-- Whatever their names, fields with JSON data have a JSON text if there is room for them. -/
theorem vet_of_fields {doubles : Bool} {fields : Fields Value} (hfields : ∀ field ∈ fields, Data doubles field.2)
    (depth : Nat) :
    vet (.map fields) depth = if Value.nesting (.map fields) ≤ depth then .ok () else .error .tooDeep :=
  deeper_of_ite fun room => vetFields_of_ite fun field hfield => vet_of_data (hfields field hfield) room

theorem vet_eq_ok_of_data {doubles : Bool} {v : Value} {depth : Nat} (hv : Data doubles v)
    (hdepth : v.nesting ≤ depth) :
    vet v depth = .ok () := by
  rw [vet_of_data hv, if_pos hdepth]

theorem write_eq_ok_iff (layout : Layout) (v : Value) (s : String) :
    write layout v = .ok s ↔ vet v depthLimit = .ok () ∧ s = String.ofList (render layout v) := by
  rw [write, Sequence.map_eq_ok_iff]
  constructor
  · rintro ⟨_, hvet, rfl⟩
    exact ⟨hvet, rfl⟩
  · rintro ⟨hvet, rfl⟩
    exact ⟨(), hvet, rfl⟩

/-- JSON data is written as its text, or lies too deep. -/
theorem write_of_data {doubles : Bool} {v : Value} (hv : Data doubles v) (layout : Layout) :
    write layout v =
      if v.nesting ≤ depthLimit then .ok (String.ofList (render layout v)) else .error .tooDeep := by
  rw [write, vet_of_data hv]
  split <;> rfl

theorem write_of_fields {doubles : Bool} {fields : Fields Value} (hfields : ∀ field ∈ fields, Data doubles field.2)
    (layout : Layout) :
    write layout (.map fields) =
      if Value.nesting (.map fields) ≤ depthLimit then .ok (String.ofList (render layout (.map fields)))
      else .error .tooDeep := by
  rw [write, vet_of_fields hfields]
  split <;> rfl

/-- Fields in which lists lie too deep have no JSON text. -/
theorem write_of_deep_field {doubles : Bool} {fields : Fields Value} (hfields : ∀ field ∈ fields, Data doubles field.2)
    {name : String} {levels : Nat} (hmem : (name, Value.nestedLists levels) ∈ fields)
    (hlevels : depthLimit ≤ levels + 1) (layout : Layout) : write layout (.map fields) = .error .tooDeep := by
  have hdeep : ¬ Value.nesting (.map fields) ≤ depthLimit := by
    intro hdepth
    rw [Value.nesting] at hdepth
    have hlists := (Value.fieldsNesting_le_iff fields _).mp Nat.le.refl _ hmem
    rw [Value.nesting_nestedLists] at hlists
    omega
  rw [write_of_fields hfields, if_neg hdeep]

theorem write_around_nestedLists (layout : Layout) (name : String) {levels : Nat} (hlevels : depthLimit ≤ levels + 1) :
    write layout (.map [(name, Value.nestedLists levels)]) = .error .tooDeep := by
  have hfields : ∀ field ∈ [(name, Value.nestedLists levels)], Data false field.2 := by
    simpa using data_nestedLists levels
  exact write_of_deep_field hfields List.mem_cons_self hlevels layout

end TableGateway.Json
