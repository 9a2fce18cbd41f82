import Mathlib.Data.List.Forall2
import TableGateway.Check.Scalar

/-!
What it takes for combined checks to accept. A combination accepts exactly when all of its parts do, and the
place under which issues are reported has no influence on that.
-/

namespace TableGateway.Check

namespace Checked

variable {α β : Type}

theorem map_eq_accepted_iff {f : α → β} {checked : Checked α} {b : β} :
    f <$> checked = .accepted b ↔ ∃ a, checked = .accepted a ∧ f a = b := by
  cases checked <;> simp [Functor.map]

theorem apply_eq_accepted_iff {first : Checked (α → β)} {second : Checked α} {b : β} :
    first.apply second = .accepted b ↔ ∃ f a, first = .accepted f ∧ second = .accepted a ∧ f a = b := by
  cases first <;> cases second <;> simp [apply]

theorem seq_eq_accepted_iff {first : Checked (α → β)} {second : Checked α} {b : β} :
    first <*> second = .accepted b ↔ ∃ f a, first = .accepted f ∧ second = .accepted a ∧ f a = b :=
  apply_eq_accepted_iff

theorem andThen_eq_accepted_iff {first : Checked α} {next : α → Checked β} {b : β} :
    first.andThen next = .accepted b ↔ ∃ a, first = .accepted a ∧ next a = .accepted b := by
  cases first <;> simp [andThen]

theorem under_eq_accepted_iff {step : Step} {checked : Checked α} {a : α} :
    checked.under step = .accepted a ↔ checked = .accepted a := by
  cases checked <;> simp [under]

theorem toExcept_eq_ok_iff {checked : Checked α} {a : α} :
    checked.toExcept = .ok a ↔ checked = .accepted a := by
  cases checked <;> simp [toExcept]

/-- All items pass exactly when each of them does, in whatever place the first one stands. -/
theorem items_eq_accepted_iff {check : α → Checked β} {place : Int} {items : List α} {results : List β} :
    Checked.items check place items = .accepted results ↔
      List.Forall₂ (fun a b => check a = .accepted b) items results := by
  induction items generalizing place results with
  | nil => cases results <;> simp [Checked.items]
  | cons a items ih =>
    rw [Checked.items, apply_eq_accepted_iff]
    constructor
    · rintro ⟨f, rest, hfirst, hrest, rfl⟩
      obtain ⟨b, hb, rfl⟩ := map_eq_accepted_iff.mp hfirst
      exact .cons (under_eq_accepted_iff.mp hb) (ih.mp hrest)
    · rintro (_ | ⟨hb, hrest⟩)
      exact ⟨_, _, map_eq_accepted_iff.mpr ⟨_, under_eq_accepted_iff.mpr hb, rfl⟩, ih.mpr hrest, rfl⟩

end Checked

open Checked

variable {α : Type}

theorem required_eq_accepted_iff {data : Fields Value} {name : String} {check : Value → Checked α} {a : α} :
    required data name check = .accepted a ↔ ∃ v, data.get? name = some v ∧ check v = .accepted a := by
  rw [required, under_eq_accepted_iff]
  cases data.get? name <;> simp [fail]

/-- A field that may be absent has its standard value or passed its check. -/
theorem optional_eq_accepted_iff {data : Fields Value} {name : String} {standard a : α}
    {check : Value → Checked α} :
    optional data name standard check = .accepted a ↔
      (data.get? name = none ∧ standard = a) ∨ ∃ v, data.get? name = some v ∧ check v = .accepted a := by
  rw [optional]
  cases data.get? name <;> simp [under_eq_accepted_iff]

theorem optional_of_get? {data : Fields Value} {name : String} {v : Value} (hget : data.get? name = some v)
    {standard a : α} {check : Value → Checked α} :
    optional data name standard check = .accepted a ↔ check v = .accepted a := by
  simp [optional_eq_accepted_iff, hget]

/-- A field under two names is read under the preferred one if it has it. -/
theorem renamed_eq_accepted_iff {data : Fields Value} {preferred name : String} {standard a : α}
    {check : Value → Checked α} :
    renamed data preferred name standard check = .accepted a ↔
      (data.get? preferred = none ∧ optional data name standard check = .accepted a) ∨
        ∃ v, data.get? preferred = some v ∧ check v = .accepted a := by
  rw [renamed]
  cases data.get? preferred <;> simp [under_eq_accepted_iff]

theorem parameters_eq_accepted_iff {name : String} {check : Fields Value → Checked α} {v : Value} {a : α} :
    parameters name check v = .accepted a ↔ ∃ fields, v.fields? = some fields ∧ check fields = .accepted a := by
  rw [parameters]
  cases v.fields? <;> simp [fail]

theorem positive_eq_accepted_iff {v : Value} {n : Int} :
    positive v = .accepted n ↔ integer v = .accepted n ∧ 1 ≤ n := by
  rw [positive, andThen_eq_accepted_iff]
  constructor
  · rintro ⟨m, hm, hn⟩
    split at hn
    · cases hn
      exact ⟨hm, by assumption⟩
    · cases hn
  · rintro ⟨hn, hone⟩
    exact ⟨n, hn, if_pos hone⟩

end TableGateway.Check
