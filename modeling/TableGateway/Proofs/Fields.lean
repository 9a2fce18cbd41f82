import TableGateway.Fields
import TableGateway.Proofs.Sequence

/-!
Which fields a joined collection holds. Setting fields one by one is plain appending as long as no name comes
twice; in general a field of the result was set by one of the two collections, and the names are those of
both.
-/

namespace TableGateway.Fields

variable {κ α β : Type}

theorem names_mapValues (f : α → β) (fields : Fields α κ) : (fields.mapValues f).names = fields.names := by
  simp [names, mapValues]

variable [DecidableEq κ]

theorem mem_of_get? {fields : Fields α κ} {name : κ} {value : α} (hget : fields.get? name = some value) :
    (name, value) ∈ fields := by
  induction fields with
  | nil => simp at hget
  | cons field rest ih =>
    obtain ⟨n, v⟩ := field
    rw [get?_cons] at hget
    split at hget
    · next hname =>
      cases hget
      simp [hname]
    · exact List.mem_cons_of_mem _ (ih hget)

/-- Fields of distinct names are what is found under their names. -/
theorem get?_of_mem {fields : Fields α κ} (hnames : fields.names.Nodup) {name : κ} {value : α}
    (hfield : (name, value) ∈ fields) : fields.get? name = some value := by
  induction fields with
  | nil => simp at hfield
  | cons field rest ih =>
    obtain ⟨n, v⟩ := field
    simp only [names, List.map_cons, List.nodup_cons] at hnames ih
    rcases List.mem_cons.mp hfield with heq | hrest
    · cases heq
      rw [get?_cons, if_pos rfl]
    · have hother : n ≠ name := by
        rintro rfl
        exact hnames.1 (List.mem_map_of_mem hrest)
      rw [get?_cons, if_neg hother]
      exact ih hnames.2 hrest

/-- A field that is set twice has the later value. -/
theorem put_put (fields : Fields α κ) (name : κ) (old value : α) :
    (fields.put name old).put name value = fields.put name value := by
  induction fields with
  | nil => simp [put]
  | cons field rest ih =>
    obtain ⟨n, v⟩ := field
    by_cases hname : n = name
    · simp [put, hname]
    · simp [put, hname, ih]

theorem put_of_not_mem {fields : Fields α κ} {name : κ} (hname : name ∉ fields.names) (value : α) :
    fields.put name value = fields ++ [(name, value)] := by
  induction fields with
  | nil => rfl
  | cons field rest ih =>
    obtain ⟨n, v⟩ := field
    simp only [names, List.map_cons, List.mem_cons, not_or] at hname ih
    simp [put, Ne.symm hname.1, ih hname.2]

theorem merge_of_nodup {fields later : Fields α κ} (hnames : (fields ++ later).names.Nodup) :
    fields.merge later = fields ++ later := by
  induction later generalizing fields with
  | nil => simp [merge]
  | cons field rest ih =>
    have hfresh : field.1 ∉ fields.names := by
      simp only [names, List.map_append, List.map_cons, List.nodup_append] at hnames
      intro hmem
      exact hnames.2.2 _ hmem _ (by simp) rfl
    change (fields.put field.1 field.2).merge rest = _
    rw [put_of_not_mem hfresh, ih (by simpa using hnames)]
    simp

/-- Pairs with distinct names are the fields that they set. -/
theorem ofPairs_of_nodup {pairs : Fields α κ} (hnames : pairs.names.Nodup) : ofPairs pairs = pairs := by
  have hmerge : merge [] pairs = [] ++ pairs := merge_of_nodup (by simpa using hnames)
  simpa [ofPairs] using hmerge

theorem ofPairs_append (pairs later : Fields α κ) : ofPairs (pairs ++ later) = (ofPairs pairs).merge later :=
  List.foldl_append

/-- Setting a field to the value that it has changes nothing. -/
theorem put_of_get? {fields : Fields α κ} {name : κ} {value : α} (hget : fields.get? name = some value) :
    fields.put name value = fields := by
  induction fields with
  | nil => simp at hget
  | cons field rest ih =>
    obtain ⟨n, v⟩ := field
    rw [get?_cons] at hget
    split at hget
    · next hname =>
      cases hget
      rw [put, if_pos hname]
    · next hname => rw [put, if_neg hname, ih hget]

/-- Joining with fields that are there already, with the same values, changes nothing. -/
theorem merge_of_get? {fields later : Fields α κ} (hlater : ∀ field ∈ later, fields.get? field.1 = some field.2) :
    fields.merge later = fields := by
  induction later with
  | nil => rfl
  | cons field rest ih =>
    obtain ⟨hfield, hrest⟩ := List.forall_mem_cons.mp hlater
    change (fields.put field.1 field.2).merge rest = fields
    rw [put_of_get? hfield]
    exact ih hrest

/-- A field that is not set again keeps its value. -/
theorem get?_merge_of_not_mem {fields later : Fields α κ} {name : κ} (hname : name ∉ later.names) :
    (fields.merge later).get? name = fields.get? name := by
  induction later generalizing fields with
  | nil => rfl
  | cons field rest ih =>
    simp only [names, List.map_cons, List.mem_cons, not_or] at hname ih
    change ((fields.put field.1 field.2).merge rest).get? name = _
    rw [ih hname.2, get?_put, if_neg (Ne.symm hname.1)]

/-- Of two collections the later one decides, as far as it goes. -/
theorem get?_merge {fields later : Fields α κ} (hlater : later.names.Nodup) (name : κ) :
    (fields.merge later).get? name = (later.get? name).or (fields.get? name) := by
  induction later generalizing fields with
  | nil => rfl
  | cons field rest ih =>
    obtain ⟨n, v⟩ := field
    simp only [names, List.map_cons, List.nodup_cons] at hlater ih
    change ((fields.put n v).merge rest).get? name = _
    rw [ih hlater.2, get?_put, get?_cons]
    by_cases hname : n = name
    · have hnone : get? rest name = none := by
        rw [get?_eq_none_iff, ← hname]
        exact hlater.1
      rw [if_pos hname, if_pos hname, hnone]
      rfl
    · rw [if_neg hname, if_neg hname]

theorem get?_erase (fields : Fields α κ) (name other : κ) :
    (fields.erase name).get? other = if name = other then none else fields.get? other := by
  induction fields with
  | nil => simp [erase]
  | cons field rest ih =>
    obtain ⟨n, v⟩ := field
    by_cases hname : n = name
    · have hdrop : erase ((n, v) :: rest) name = erase rest name := by simp [erase, hname]
      rw [hdrop, ih, get?_cons, hname]
      split <;> rfl
    · have hkeep : erase ((n, v) :: rest) name = (n, v) :: erase rest name := by simp [erase, hname]
      rw [hkeep, get?_cons, get?_cons, ih]
      by_cases hother : n = other
      · rw [if_pos hother, if_neg (fun heq => hname (hother.trans heq.symm)), if_pos hother]
      · rw [if_neg hother, if_neg hother]

theorem mem_put {fields : Fields α κ} {name : κ} {value : α} {field : κ × α}
    (hfield : field ∈ fields.put name value) : field ∈ fields ∨ field = (name, value) := by
  induction fields with
  | nil => exact .inr (by simpa [put] using hfield)
  | cons head rest ih =>
    obtain ⟨n, v⟩ := head
    rw [put] at hfield
    split at hfield
    · next hname =>
      rcases List.mem_cons.mp hfield with hhead | hrest
      · exact .inr (by rw [hhead, hname])
      · exact .inl (List.mem_cons_of_mem _ hrest)
    · rcases List.mem_cons.mp hfield with rfl | hrest
      · exact .inl List.mem_cons_self
      · rcases ih hrest with hold | hnew
        · exact .inl (List.mem_cons_of_mem _ hold)
        · exact .inr hnew

/-- A field of a joined collection comes from one of the two. -/
theorem mem_merge {fields later : Fields α κ} {field : κ × α} (hfield : field ∈ fields.merge later) :
    field ∈ fields ∨ field ∈ later := by
  induction later generalizing fields with
  | nil => exact .inl hfield
  | cons head rest ih =>
    have hstep : field ∈ (fields.put head.1 head.2).merge rest := hfield
    rcases ih hstep with hold | hnew
    · rcases mem_put hold with hold | rfl
      · exact .inl hold
      · exact .inr List.mem_cons_self
    · exact .inr (List.mem_cons_of_mem _ hnew)

theorem mem_ofPairs {pairs : Fields α κ} {field : κ × α} (hfield : field ∈ ofPairs pairs) :
    field ∈ pairs := by
  rcases mem_merge hfield with hnone | hsome
  · exact absurd hnone (by simp)
  · exact hsome

theorem mem_names_merge (fields later : Fields α κ) (name : κ) :
    name ∈ (fields.merge later).names ↔ name ∈ fields.names ∨ name ∈ later.names := by
  induction later generalizing fields with
  | nil => simp [merge, names]
  | cons head rest ih =>
    have hput : name ∈ (fields.put head.1 head.2).names ↔ name ∈ fields.names ∨ name = head.1 := by
      rw [names_put]
      split
      · constructor
        · exact .inl
        · rintro (hold | rfl)
          · exact hold
          · assumption
      · simp
    have hmerge := ih (fields.put head.1 head.2)
    rw [hput] at hmerge
    simpa [merge, names, or_assoc] using hmerge

theorem mem_names_ofPairs (pairs : Fields α κ) (name : κ) :
    name ∈ (ofPairs pairs).names ↔ name ∈ pairs.map (·.1) := by
  simpa [ofPairs, names] using mem_names_merge [] pairs name

section

variable [BEq κ] [LawfulBEq κ]

omit [DecidableEq κ] in
theorem eraseDups_of_nodup {items : List κ} (hitems : items.Nodup) : items.eraseDups = items := by
  induction items with
  | nil => rfl
  | cons item rest ih =>
    obtain ⟨hfresh, hrest⟩ := List.nodup_cons.mp hitems
    have hkept : rest.filter (fun other => !other == item) = rest := by
      rw [List.filter_eq_self]
      intro other hother
      have hne : other ≠ item := fun heq => hfresh (heq ▸ hother)
      simpa using hne
    rw [List.eraseDups_cons, hkept, ih hrest]

/-- The names of a joined collection are those of the two, each at its first place. -/
theorem names_merge {fields : Fields α κ} (hnames : fields.names.Nodup) (later : Fields α κ) :
    (fields.merge later).names = (fields.names ++ later.names).eraseDups := by
  induction later generalizing fields with
  | nil => simpa [merge, names] using (eraseDups_of_nodup hnames).symm
  | cons field rest ih =>
    have hstep := ih (nodup_names_put hnames field.1 field.2)
    change ((fields.put field.1 field.2).merge rest).names = (fields.names ++ field.1 :: names rest).eraseDups
    rw [hstep, names_put]
    by_cases hname : field.1 ∈ fields.names
    · rw [if_pos hname, List.eraseDups_append, List.eraseDups_append, List.cons_removeAll]
      simp [hname]
    · rw [if_neg hname, List.append_assoc, List.singleton_append]

theorem names_ofPairs (pairs : Fields α κ) : (ofPairs pairs).names = pairs.names.eraseDups :=
  names_merge (by simp [names]) pairs

theorem nodup_eraseDups (items : List κ) : items.eraseDups.Nodup := by
  have hnodup := nodup_names_ofPairs (items.map fun item => (item, ()))
  rw [names_ofPairs, names, List.map_map] at hnodup
  simpa [Function.comp_def] using hnodup

theorem eraseDups_filter (p : κ → Bool) (items : List κ) :
    (items.filter p).eraseDups = items.eraseDups.filter p := by
  match items with
  | [] => rfl
  | item :: rest =>
    have hrest := eraseDups_filter p (rest.filter fun other => !other == item)
    rw [List.eraseDups_cons]
    by_cases hitem : p item
    · rw [List.filter_cons_of_pos hitem, List.filter_cons_of_pos hitem, List.eraseDups_cons, ← hrest,
        List.filter_comm]
    · rw [List.filter_cons_of_neg hitem, List.filter_cons_of_neg hitem, ← hrest, List.filter_filter]
      congr 1
      apply List.filter_congr
      intro other _
      by_cases heq : other = item
      · simp [heq, hitem]
      · simp [heq]
termination_by items.length
decreasing_by exact Nat.lt_succ_of_le (List.length_filter_le _ _)

/-- Names that a collection of pairs repeats do not matter for the order of the names. -/
theorem names_merge_ofPairs {fields : Fields α κ} (hnames : fields.names.Nodup) (pairs : Fields α κ) :
    (fields.merge (ofPairs pairs)).names = (fields.names ++ pairs.names).eraseDups := by
  have honce : pairs.names.eraseDups.eraseDups = pairs.names.eraseDups := by
    rw [← names_ofPairs]
    exact eraseDups_of_nodup (nodup_names_ofPairs pairs)
  rw [names_merge hnames, names_ofPairs, List.eraseDups_append, List.eraseDups_append, List.removeAll,
    List.removeAll, eraseDups_filter, eraseDups_filter, honce]

end

end TableGateway.Fields
