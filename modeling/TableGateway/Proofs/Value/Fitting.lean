import TableGateway.Proofs.Fields
import TableGateway.Proofs.Json.Data
import TableGateway.Value.Access

/-!
Values of which a text can be made. What keeps a value from having one are integers beyond the digit limit and
collections that lie too deep, and a map has one when there is room for it and the names and values that describe
it have theirs. Making the text never changes the value.
-/

namespace TableGateway.Value

open TableGateway.Json

theorem allFit_iff (items : List Value) : allFit items ↔ ∀ v ∈ items, v.fits := by
  induction items with
  | nil => simp [allFit]
  | cons v items ih => simp [allFit, ih]

theorem allFieldsFit_iff (fields : Fields Value) : allFieldsFit fields ↔ ∀ field ∈ fields, field.2.fits := by
  induction fields with
  | nil => simp [allFieldsFit]
  | cons field fields ih =>
    obtain ⟨name, v⟩ := field
    simp only [allFieldsFit, Bool.and_eq_true, ih, List.mem_cons, forall_eq_or_imp]

theorem allEntriesFit_iff (pairs : List (Value × Value)) :
    allEntriesFit pairs ↔ ∀ pair ∈ pairs, pair.1.fits ∧ pair.2.fits := by
  induction pairs with
  | nil => simp [allEntriesFit]
  | cons pair pairs ih =>
    obtain ⟨name, v⟩ := pair
    simp only [allEntriesFit, Bool.and_eq_true, ih, List.mem_cons, forall_eq_or_imp]

theorem mem_putEntry {pairs : List (Value × Value)} {name v : Value} {pair : Value × Value}
    (hpair : pair ∈ putEntry pairs name v) :
    (pair.1 = name ∨ ∃ old ∈ pairs, pair.1 = old.1) ∧ (pair.2 = v ∨ ∃ old ∈ pairs, pair.2 = old.2) := by
  induction pairs with
  | nil => simp_all [putEntry]
  | cons head rest ih =>
    obtain ⟨n, w⟩ := head
    rw [putEntry] at hpair
    split at hpair
    · rcases List.mem_cons.mp hpair with rfl | hrest
      · exact ⟨.inr ⟨(n, w), by simp, rfl⟩, .inl rfl⟩
      · exact ⟨.inr ⟨pair, by simp [hrest], rfl⟩, .inr ⟨pair, by simp [hrest], rfl⟩⟩
    · rcases List.mem_cons.mp hpair with rfl | hrest
      · exact ⟨.inr ⟨(n, w), by simp, rfl⟩, .inr ⟨(n, w), by simp, rfl⟩⟩
      · obtain ⟨hname, hvalue⟩ := ih hrest
        refine ⟨hname.imp_right ?_, hvalue.imp_right ?_⟩
        · rintro ⟨old, hold, heq⟩
          exact ⟨old, by simp [hold], heq⟩
        · rintro ⟨old, hold, heq⟩
          exact ⟨old, by simp [hold], heq⟩

/-- What holds of the names and of the values that describe a map holds of those of the map. -/
theorem forall_foldl_putEntry {p q : Value → Prop} {pairs all : List (Value × Value)}
    (hall : ∀ pair ∈ all, p pair.1 ∧ q pair.2) (hpairs : ∀ pair ∈ pairs, p pair.1 ∧ q pair.2) :
    ∀ pair ∈ pairs.foldl (fun all pair => putEntry all pair.1 pair.2) all, p pair.1 ∧ q pair.2 := by
  induction pairs generalizing all with
  | nil => exact hall
  | cons head rest ih =>
    obtain ⟨⟨hname, hvalue⟩, hrest⟩ := List.forall_mem_cons.mp hpairs
    refine ih (fun pair hpair => ?_) hrest
    obtain ⟨hfirst, hsecond⟩ := mem_putEntry hpair
    constructor
    · rcases hfirst with heq | ⟨old, hold, heq⟩ <;> rw [heq]
      · exact hname
      · exact (hall old hold).1
    · rcases hsecond with heq | ⟨old, hold, heq⟩ <;> rw [heq]
      · exact hvalue
      · exact (hall old hold).2

/-- A map holds nothing but what the pairs that describe it hold. -/
theorem ofPairs_cases {p q : Value → Prop} {pairs : List (Value × Value)}
    (hpairs : ∀ pair ∈ pairs, p pair.1 ∧ q pair.2) :
    (∃ fields, ofPairs pairs = .map fields ∧ ∀ field ∈ fields, q field.2) ∨
      ∃ entries, ofPairs pairs = .entries entries ∧ ∀ pair ∈ entries, p pair.1 ∧ q pair.2 := by
  unfold ofPairs
  split
  · next fields hfields =>
    refine .inl ⟨_, rfl, fun field hfield => ?_⟩
    obtain ⟨pair, hpair, hfound⟩ := Sequence.exists_of_mem_right
      (Sequence.mapM_eq_some_iff.mp hfields) (Fields.mem_ofPairs hfield)
    have hvalue := (hpairs pair hpair).2
    unfold field? at hfound
    split at hfound
    · cases hfound
      exact hvalue
    · cases hfound
  · exact .inr ⟨_, rfl, forall_foldl_putEntry (by simp) hpairs⟩

/-- A map fits when the names and values that describe it do. -/
theorem fits_ofPairs {pairs : List (Value × Value)} (hpairs : ∀ pair ∈ pairs, pair.1.fits ∧ pair.2.fits) :
    (ofPairs pairs).fits := by
  have hcases := ofPairs_cases (p := fun v => v.fits) (q := fun v => v.fits) hpairs
  rcases hcases with ⟨fields, heq, hfields⟩ | ⟨entries, heq, hentries⟩ <;> rw [heq, fits]
  · exact (allFieldsFit_iff fields).mpr hfields
  · exact (allEntriesFit_iff entries).mpr hentries

/-- A map lies one level above the names and values that describe it. -/
theorem nesting_ofPairs {pairs : List (Value × Value)} {depth : Nat}
    (hpairs : ∀ pair ∈ pairs, pair.1.nesting ≤ depth ∧ pair.2.nesting ≤ depth) :
    (ofPairs pairs).nesting ≤ depth + 1 := by
  have hcases := ofPairs_cases (p := fun v => v.nesting ≤ depth) (q := fun v => v.nesting ≤ depth) hpairs
  rcases hcases with ⟨fields, heq, hfields⟩ | ⟨entries, heq, hentries⟩ <;> rw [heq, nesting, Nat.add_le_add_iff_right]
  · exact (fieldsNesting_le_iff fields depth).mpr hfields
  · exact (pairsNesting_le_iff entries depth).mpr hentries

theorem fits_of_data {doubles : Bool} {v : Value} (hv : Data doubles v) : v.fits := by
  induction hv with
  | null => rfl
  | bool b => rfl
  | int hn => exact hn
  | float x _ => rfl
  | text s => rfl
  | list _ ih => exact (allFit_iff _).mpr ih
  | map _ _ ih => exact (allFieldsFit_iff _).mpr ih

theorem deeper_eq_ok_iff {depth levels : Nat} {p : Prop} {go : Nat → Except Failure Unit}
    (hgo : ∀ room, go room = .ok () ↔ p ∧ levels ≤ room) : deeper depth go = .ok () ↔ p ∧ levels + 1 ≤ depth := by
  cases depth with
  | zero => simp [deeper]
  | succ room => rw [deeper, hgo, Nat.add_le_add_iff_right]

mutual

/-- Going through a value tells whether its integers are short enough and whether there is room for it. -/
theorem inspect_eq_ok_iff : ∀ (v : Value) (depth : Nat), v.inspect depth = .ok () ↔ v.fits ∧ v.nesting ≤ depth
  | .int n, depth => by simp [inspect, fits, nesting]
  | .list items, _ | .tuple items, _ | .set items, _ => deeper_eq_ok_iff (inspectItems_eq_ok_iff items)
  | .map fields, _ | .view fields, _ => deeper_eq_ok_iff (inspectFields_eq_ok_iff fields)
  | .entries pairs, _ => deeper_eq_ok_iff (inspectPairs_eq_ok_iff pairs)
  | .tagged _ raw, _ => deeper_eq_ok_iff (inspect_eq_ok_iff raw)
  | .null, _ | .bool _, _ | .float _, _ | .decimal _, _ | .text _, _ | .broken _, _ | .bytes _, _ | .operator _, _
  | .foreign _, _ => by simp [inspect, fits, nesting]

theorem inspectItems_eq_ok_iff : ∀ (items : List Value) (depth : Nat),
    inspectItems items depth = .ok () ↔ allFit items ∧ itemsNesting items ≤ depth
  | [], depth => by simp [inspectItems, allFit, itemsNesting]
  | v :: rest, depth => by
    rw [inspectItems, Sequence.then_eq_ok_iff, inspect_eq_ok_iff, inspectItems_eq_ok_iff, allFit, itemsNesting,
      Nat.max_le, Bool.and_eq_true]
    exact and_and_and_comm

theorem inspectFields_eq_ok_iff : ∀ (fields : List (String × Value)) (depth : Nat),
    inspectFields fields depth = .ok () ↔ allFieldsFit fields ∧ fieldsNesting fields ≤ depth
  | [], depth => by simp [inspectFields, allFieldsFit, fieldsNesting]
  | (_, v) :: rest, depth => by
    rw [inspectFields, Sequence.then_eq_ok_iff, inspect_eq_ok_iff, inspectFields_eq_ok_iff, allFieldsFit,
      fieldsNesting, Nat.max_le, Bool.and_eq_true]
    exact and_and_and_comm

theorem inspectPairs_eq_ok_iff : ∀ (pairs : List (Value × Value)) (depth : Nat),
    inspectPairs pairs depth = .ok () ↔ allEntriesFit pairs ∧ pairsNesting pairs ≤ depth
  | [], depth => by simp [inspectPairs, allEntriesFit, pairsNesting]
  | (name, v) :: rest, depth => by
    simp only [inspectPairs, Sequence.then_eq_ok_iff, inspect_eq_ok_iff name depth, inspect_eq_ok_iff v depth,
      inspectPairs_eq_ok_iff rest depth, allEntriesFit, pairsNesting, Nat.max_le, Bool.and_eq_true]
    constructor
    · rintro ⟨⟨hname, hname_depth⟩, ⟨hv, hv_depth⟩, hrest, hrest_depth⟩
      exact ⟨⟨⟨hname, hv⟩, hrest⟩, ⟨hname_depth, hv_depth⟩, hrest_depth⟩
    · rintro ⟨⟨⟨hname, hv⟩, hrest⟩, ⟨hname_depth, hv_depth⟩, hrest_depth⟩
      exact ⟨⟨hname, hname_depth⟩, ⟨hv, hv_depth⟩, hrest, hrest_depth⟩

end

theorem inspect_nestedLists {levels depth : Nat} (hdeep : depth ≤ levels) :
    (nestedLists levels).inspect depth = .error .tooDeep := by
  induction levels generalizing depth with
  | zero =>
    rw [Nat.le_zero.mp hdeep]
    rfl
  | succ levels ih =>
    cases depth with
    | zero => rfl
    | succ room =>
      change (do
        (nestedLists levels).inspect room
        inspectItems [] room) = _
      rw [ih (Nat.le_of_succ_le_succ hdeep)]
      rfl

/-- A text can be made of the value. -/
structure HasText (v : Value) : Prop where
  fits : v.fits
  depth : v.nesting ≤ depthLimit

section

variable {v : Value}

theorem fitting_eq_ok_iff {w : Value} : v.fitting = .ok w ↔ v.HasText ∧ v = w := by
  rw [fitting, Sequence.map_eq_ok_iff]
  constructor
  · rintro ⟨_, hinspect, rfl⟩
    obtain ⟨hfits, hdepth⟩ := (inspect_eq_ok_iff v depthLimit).mp hinspect
    exact ⟨⟨hfits, hdepth⟩, rfl⟩
  · rintro ⟨⟨hfits, hdepth⟩, rfl⟩
    exact ⟨(), (inspect_eq_ok_iff v depthLimit).mpr ⟨hfits, hdepth⟩, rfl⟩

theorem HasText.fitting (hv : v.HasText) : v.fitting = .ok v := fitting_eq_ok_iff.mpr ⟨hv, rfl⟩

theorem asScalar_eq_ok_iff {t : List Text.Glyph} : v.asScalar = .ok t ↔ v.HasText ∧ v.scalar = t := by
  simp only [asScalar, Sequence.map_eq_ok_iff, fitting_eq_ok_iff]
  constructor
  · rintro ⟨_, ⟨hv, rfl⟩, ht⟩
    exact ⟨hv, ht⟩
  · rintro ⟨hv, ht⟩
    exact ⟨v, ⟨hv, rfl⟩, ht⟩

theorem HasText.asScalar (hv : v.HasText) : v.asScalar = .ok v.scalar := asScalar_eq_ok_iff.mpr ⟨hv, rfl⟩

theorem HasText.asInset (hv : v.HasText) : v.asInset = .ok v.inset := by
  rw [Value.asInset, hv.fitting]
  rfl

theorem hasText_of_data {doubles : Bool} (hv : Data doubles v) (hdepth : v.nesting ≤ depthLimit) : v.HasText :=
  ⟨fits_of_data hv, hdepth⟩

end

theorem asScalar_nestedLists {levels : Nat} (hdeep : depthLimit ≤ levels) :
    (nestedLists levels).asScalar = .error .tooDeep := by
  rw [asScalar, fitting, inspect_nestedLists hdeep]
  rfl

theorem mapM_asScalar_eq_ok_iff {values : List Value} {row : List (List Text.Glyph)} :
    values.mapM asScalar = .ok row ↔ (∀ v ∈ values, v.HasText) ∧ values.map scalar = row := by
  rw [Sequence.mapM_eq_ok_iff]
  simp only [asScalar_eq_ok_iff]
  constructor
  · intro hrow
    induction hrow with
    | nil => simp
    | cons hvalue _ ih => exact ⟨List.forall_mem_cons.mpr ⟨hvalue.1, ih.1⟩, by rw [List.map_cons, hvalue.2, ih.2]⟩
  · rintro ⟨hvalues, rfl⟩
    rw [List.forall₂_map_right_iff, List.forall₂_same]
    exact fun v hv => ⟨hvalues v hv, rfl⟩

theorem scalars_of_hasText {values : List Value} (hvalues : ∀ v ∈ values, v.HasText) :
    values.mapM asScalar = .ok (values.map scalar) :=
  mapM_asScalar_eq_ok_iff.mpr ⟨hvalues, rfl⟩

end TableGateway.Value
