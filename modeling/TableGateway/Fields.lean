/-!
Named fields in the order in which they were first set. Setting a field again changes its value and
keeps its place, and joining two collections sets the fields of the second one by one, so that the
later value wins. Query parameters, headers, records and the entries of a map are all of this kind. Names
are texts unless something else is said.
-/

namespace TableGateway

/-- Names with values, in order. -/
abbrev Fields (α : Type) (κ : Type := String) := List (κ × α)

namespace Fields

variable {κ α β : Type}

def names (fields : Fields α κ) : List κ := fields.map (·.1)

def mapValues (f : α → β) (fields : Fields α κ) : Fields β κ := fields.map fun field => (field.1, f field.2)

variable [DecidableEq κ]

def get? (fields : Fields α κ) (name : κ) : Option α := fields.lookup name

/-- Sets a field: in its place when it is there, else at the end. -/
def put : Fields α κ → κ → α → Fields α κ
  | [], name, value => [(name, value)]
  | (n, v) :: rest, name, value =>
    if n = name then (n, value) :: rest else (n, v) :: put rest name value

/-- Sets the fields of `later`, one after the other. -/
def merge (fields later : Fields α κ) : Fields α κ :=
  later.foldl (fun all field => all.put field.1 field.2) fields

/-- The fields that a list of pairs sets. -/
def ofPairs (pairs : Fields α κ) : Fields α κ := merge [] pairs

def erase (fields : Fields α κ) (name : κ) : Fields α κ := fields.filter (·.1 != name)

@[simp] theorem get?_nil (name : κ) : get? ([] : Fields α κ) name = none := rfl

theorem get?_cons (n : κ) (v : α) (rest : Fields α κ) (name : κ) :
    get? ((n, v) :: rest) name = if n = name then some v else get? rest name := by
  by_cases h : n = name
  · simp [get?, h]
  · have h' : (name == n) = false := beq_false_of_ne (Ne.symm h)
    simp [get?, List.lookup_cons, h, h']

theorem get?_put (fields : Fields α κ) (name other : κ) (value : α) :
    (fields.put name value).get? other = if name = other then some value else fields.get? other := by
  induction fields with
  | nil => simp [put, get?_cons]
  | cons field rest ih =>
    obtain ⟨n, v⟩ := field
    by_cases h : n = name
    · subst h
      by_cases h' : n = other <;> simp [put, get?_cons, h']
    · by_cases h' : n = other
      · subst h'
        simp [put, get?_cons, h, Ne.symm h]
      · simp [put, get?_cons, h, h', ih]

theorem names_put (fields : Fields α κ) (name : κ) (value : α) :
    (fields.put name value).names =
      if name ∈ fields.names then fields.names else fields.names ++ [name] := by
  induction fields with
  | nil => simp [put, names]
  | cons field rest ih =>
    obtain ⟨n, v⟩ := field
    simp only [names] at ih
    by_cases h : n = name
    · simp [put, names, h]
    · by_cases h' : name ∈ rest.map (·.1) <;> simp [put, names, h, Ne.symm h, ih, h']

theorem get?_eq_none_iff (fields : Fields α κ) (name : κ) :
    fields.get? name = none ↔ name ∉ fields.names := by
  induction fields with
  | nil => simp [names]
  | cons field rest ih =>
    obtain ⟨n, v⟩ := field
    simp only [names] at ih
    rw [get?_cons]
    simp only [names, List.map_cons, List.mem_cons]
    by_cases h : n = name
    · simp [h]
    · simp [h, Ne.symm h, ih]

theorem nodup_names_put {fields : Fields α κ} (h : fields.names.Nodup) (name : κ) (value : α) :
    (fields.put name value).names.Nodup := by
  rw [names_put]
  split
  · exact h
  · next fresh =>
    rw [List.nodup_append]
    exact ⟨h, by simp, fun a ha b hb => by rintro rfl; simp_all⟩

theorem nodup_names_merge {fields : Fields α κ} (h : fields.names.Nodup) (later : Fields α κ) :
    (fields.merge later).names.Nodup := by
  induction later generalizing fields with
  | nil => exact h
  | cons field rest ih => exact ih (nodup_names_put h field.1 field.2)

theorem nodup_names_ofPairs (pairs : Fields α κ) : (ofPairs pairs).names.Nodup :=
  nodup_names_merge (by simp [names]) pairs

end Fields

end TableGateway
