import Mathlib.Algebra.Ring.Nat
import Mathlib.Data.List.Induction
import Mathlib.Data.List.Nodup
import TableGateway.Proofs.Fields

/-!
Collections of fields that several items contribute, joined one after the other. The last item that contributes a name
decides its value. When no two items contribute the same name nothing is lost, and the order of the items does not
matter for what a name is bound to.
-/

namespace TableGateway.Fields

variable {κ α β : Type} {part : β → Fields α κ}

theorem names_flatMap (items : List β) : names (items.flatMap part) = items.flatMap fun item => (part item).names := by
  rw [names, List.map_flatMap]
  rfl

variable [DecidableEq κ] {items : List β}

/-- Fields that are set later decide as far as they go, also when they set a name several times. -/
theorem get?_merge_ofPairs (fields later : Fields α κ) (name : κ) :
    (fields.merge later).get? name = ((ofPairs later).get? name).or (fields.get? name) := by
  induction later generalizing fields with
  | nil => rfl
  | cons field rest ih =>
    have hfields := ih (fields.put field.1 field.2)
    have hfirst : (ofPairs (field :: rest)).get? name =
        ((ofPairs rest).get? name).or (get? [field] name) := ih [field]
    change ((fields.put field.1 field.2).merge rest).get? name = _
    rw [hfields, hfirst, get?_put, Option.or_assoc, get?_cons field.1 field.2 [] name]
    split <;> rfl

theorem ofPairs_flatMap_concat (items : List β) (item : β) :
    ofPairs ((items ++ [item]).flatMap part) = (ofPairs (items.flatMap part)).merge (part item) := by
  rw [List.flatMap_append, List.flatMap_singleton, ofPairs_append]

/-- The last item that contributes a name decides its value. -/
theorem get?_ofPairs_flatMap_iff {name : κ} {value : α} :
    (ofPairs (items.flatMap part)).get? name = some value ↔
      ∃ before item after, items = before ++ item :: after ∧ (ofPairs (part item)).get? name = some value ∧
        ∀ later ∈ after, name ∉ (part later).names := by
  induction items using List.reverseRecOn with
  | nil =>
    constructor
    · intro hget
      cases hget
    · rintro ⟨before, item, after, hitems, -, -⟩
      exact absurd hitems (by simp)
  | append_singleton items last ih =>
    rw [ofPairs_flatMap_concat, get?_merge_ofPairs, Option.or_eq_some_iff, ih, get?_eq_none_iff, mem_names_ofPairs]
    constructor
    · rintro (hlast | ⟨hfresh, before, item, after, rfl, hitem, hafter⟩)
      · exact ⟨items, last, [], rfl, hlast, by simp⟩
      · have hlater : ∀ later ∈ after ++ [last], name ∉ (part later).names :=
          List.forall_mem_append.mpr ⟨hafter, List.forall_mem_singleton.mpr hfresh⟩
        exact ⟨before, item, after ++ [last], by simp, hitem, hlater⟩
    · rintro ⟨before, item, after, hitems, hitem, hafter⟩
      rcases List.eq_nil_or_concat after with rfl | ⟨rest, final, rfl⟩
      · obtain ⟨rfl, hlast⟩ := List.append_inj' hitems rfl
        cases hlast
        exact .inl hitem
      · have hsplit : items ++ [last] = (before ++ item :: rest) ++ [final] := by simpa using hitems
        obtain ⟨rfl, hlast⟩ := List.append_inj' hsplit rfl
        cases hlast
        rw [List.concat_eq_append, List.forall_mem_append, List.forall_mem_singleton] at hafter
        exact .inr ⟨hafter.2, before, item, rest, rfl, hitem, hafter.1⟩

/-- As long as no two items contribute the same name, each decides its own. -/
theorem get?_ofPairs_flatMap_of_disjoint
    (hitems : items.Pairwise fun item other => (part item).names.Disjoint (part other).names) {name : κ}
    {value : α} :
    (ofPairs (items.flatMap part)).get? name = some value ↔
      ∃ item ∈ items, (ofPairs (part item)).get? name = some value := by
  rw [get?_ofPairs_flatMap_iff]
  constructor
  · rintro ⟨before, item, after, rfl, hitem, -⟩
    exact ⟨item, by simp, hitem⟩
  · rintro ⟨item, hmem, hitem⟩
    obtain ⟨before, after, rfl⟩ := List.append_of_mem hmem
    refine ⟨before, item, after, rfl, hitem, fun later hlater hname => ?_⟩
    have hnamed : name ∈ (ofPairs (part item)).names := List.mem_map_of_mem (mem_of_get? hitem)
    rw [mem_names_ofPairs] at hnamed
    obtain ⟨-, hrest, -⟩ := List.pairwise_append.mp hitems
    exact (List.pairwise_cons.mp hrest).1 later hlater hnamed hname

/-- Items that contribute no name in common bind the same names to the same values in any order. -/
theorem get?_ofPairs_flatMap_perm {others : List β} (hsame : items.Perm others)
    (hitems : items.Pairwise fun item other => (part item).names.Disjoint (part other).names) (name : κ) :
    (ofPairs (items.flatMap part)).get? name = (ofPairs (others.flatMap part)).get? name := by
  have hothers : others.Pairwise fun item other => (part item).names.Disjoint (part other).names :=
    hsame.pairwise hitems fun hdisjoint => List.disjoint_symm hdisjoint
  ext value
  rw [get?_ofPairs_flatMap_of_disjoint hitems, get?_ofPairs_flatMap_of_disjoint hothers]
  simp only [hsame.mem_iff]

/-- Items with distinct names and none in common lose no field when they are joined. -/
theorem length_ofPairs_flatMap (hnames : ∀ item ∈ items, (part item).names.Nodup)
    (hitems : items.Pairwise fun item other => (part item).names.Disjoint (part other).names) :
    (ofPairs (items.flatMap part)).length = (items.map fun item => (part item).length).sum := by
  have hnodup : (names (items.flatMap part)).Nodup := by
    rw [names_flatMap]
    exact List.nodup_flatMap.mpr ⟨hnames, hitems⟩
  rw [ofPairs_of_nodup hnodup, List.length_flatMap]

end TableGateway.Fields
