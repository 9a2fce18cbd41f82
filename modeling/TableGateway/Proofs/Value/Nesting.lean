import Mathlib.Algebra.Group.Nat.Defs
import TableGateway.Fields
import TableGateway.Value.Nesting

/-!
The nesting of a collection is one more than that of its deepest member, so that a bound on it is a bound on all
members.
-/

namespace TableGateway.Value

theorem itemsNesting_le_iff (items : List Value) (depth : Nat) :
    itemsNesting items ≤ depth ↔ ∀ v ∈ items, nesting v ≤ depth := by
  induction items with
  | nil => simp [itemsNesting]
  | cons v items ih => rw [itemsNesting, Nat.max_le, ih, List.forall_mem_cons]

theorem fieldsNesting_le_iff (fields : Fields Value) (depth : Nat) :
    fieldsNesting fields ≤ depth ↔ ∀ field ∈ fields, nesting field.2 ≤ depth := by
  induction fields with
  | nil => simp [fieldsNesting]
  | cons field fields ih => rw [fieldsNesting, Nat.max_le, ih, List.forall_mem_cons]

theorem pairsNesting_le_iff (pairs : List (Value × Value)) (depth : Nat) :
    pairsNesting pairs ≤ depth ↔ ∀ pair ∈ pairs, nesting pair.1 ≤ depth ∧ nesting pair.2 ≤ depth := by
  induction pairs with
  | nil => simp [pairsNesting]
  | cons pair pairs ih => rw [pairsNesting, Nat.max_le, Nat.max_le, ih, List.forall_mem_cons]

/-- Lists inside each other, `levels` of them around the empty one. -/
def nestedLists : (levels : Nat) → Value
  | 0 => .list []
  | levels + 1 => .list [nestedLists levels]

theorem nesting_nestedLists (levels : Nat) : (nestedLists levels).nesting = levels + 1 := by
  induction levels with
  | zero => rfl
  | succ levels ih => rw [nestedLists, nesting, itemsNesting, ih, itemsNesting, Nat.max_zero]

end TableGateway.Value
