import TableGateway.Filter.Scheme
import TableGateway.Proofs.Text.Glyph
import TableGateway.Proofs.Value.Fitting

/-!
What one entry of a filter becomes. The value of an entry is written as an operator and an operand with a dot
between them, and only the operator depends on the key. A map is the exception: under a key without an operator it
is written entry by entry, each under the text of its name, and under any other key it stays as it is. Nothing but its
key can keep an entry from being written, as long as there is room for what its value holds.
-/

namespace TableGateway.Filter

open TableGateway.Json TableGateway.Number TableGateway.Text

/-- A value as callers put it into a filter. Its kind was not decided beforehand, no integer in it is beyond the digit
limit, and each item of a list, and each name and value of a map, is no deeper than what can be shown. -/
structure Plain (v : Value) : Prop where
  untagged : v.raw = v
  fits : v.fits
  depth : v.nesting ≤ depthLimit + 1

/-- The operator that a value brings along for a key without one. -/
def usualOperator : Value → String
  | .null | .bool _ => "is"
  | .int _ | .float _ | .decimal _ => "eq"
  | .list _ | .tuple _ | .set _ => "cs"
  | _ => "ilike"

/-- The operator that is written before a value. Null is always compared by `is`. -/
def writtenOperator (operator : Option String) (v : Value) : String :=
  match v with
  | .null => "is"
  | v => operator.getD (usualOperator v)

/-- What is written behind the operator. -/
def operand (v : Value) : List Glyph :=
  match v with
  | .null | .bool _ | .int _ | .float _ | .decimal _ => v.scalar
  | .list items | .tuple items | .set items =>
    glyphsOf "\x7b" ++ without ':' ((glyphsOf ",").intercalate (items.map Value.scalar)) ++ glyphsOf "\x7d"
  | v => glyphsOf "*" ++ without ':' v.scalar ++ glyphsOf "*"

/-- An operator and what it applies to, with a dot between them. -/
def applied (op : String) (operand : List Glyph) : Value := .ofGlyphs (glyphsOf (op ++ ".") ++ operand)

/-- The name of the parameter that an entry of a map becomes. -/
def nestedName (field : String) (name : Value) : List Glyph := glyphsOf (field ++ "->>") ++ name.script

/-- The parameter that an entry of a map becomes. -/
def nested (op field : String) (pair : Value × Value) : List Glyph × Value :=
  (nestedName field pair.1, applied op (glyphsOf "*" ++ pair.2.inset ++ glyphsOf "*"))

/-- The parameters that an entry with a plain value contributes. -/
def contribution (key : Key) (v : Value) : Parameters :=
  match v.pairs?, key.operator with
  | some pairs, none => Fields.ofPairs (pairs.map (nested "ilike" key.field))
  | some _, some _ => [(glyphsOf key.whole, v)]
  | none, operator => [(glyphsOf key.whole, applied (writtenOperator operator v) (operand v))]

theorem applied_glyphsOf (op s : String) : applied op (glyphsOf s) = .text (op ++ "." ++ s) := by
  rw [applied, ← glyphsOf_append, Value.ofGlyphs_glyphsOf]

section

variable {v : Value}

theorem ne_tagged (hraw : v.raw = v) (kind : Kind) (raw : Value) : v ≠ .tagged kind raw := by
  rintro rfl
  change raw = .tagged kind raw at hraw
  cases hraw

theorem plain_of_data {doubles : Bool} (hv : Data doubles v) (hdepth : v.nesting ≤ depthLimit + 1) : Plain v :=
  ⟨by cases hv <;> rfl, Value.fits_of_data hv, hdepth⟩

namespace Plain

/-- A single value can be shown. -/
theorem hasText (hv : Plain v) (hlist : v.kind ≠ .list) (hmap : v.kind ≠ .mapping) : v.HasText := by
  refine ⟨hv.fits, ?_⟩
  have huntagged := ne_tagged hv.untagged
  cases v with
  | list _ | tuple _ | set _ => exact absurd rfl hlist
  | map _ | entries _ | view _ => exact absurd rfl hmap
  | tagged kind raw => exact absurd rfl (huntagged kind raw)
  | _ => exact Nat.zero_le _

/-- The items of a list can be shown, each by itself. -/
theorem exists_items (hv : Plain v) (hkind : v.kind = .list) :
    ∃ items, v.elements? = some items ∧ ∀ item ∈ items, item.HasText := by
  have huntagged := ne_tagged hv.untagged
  have hfits := hv.fits
  have hdepth := hv.depth
  cases v with
  | list items | tuple items | set items =>
    rw [Value.fits, Value.allFit_iff] at hfits
    rw [Value.nesting, Nat.add_le_add_iff_right, Value.itemsNesting_le_iff] at hdepth
    exact ⟨items, rfl, fun item hitem => ⟨hfits item hitem, hdepth item hitem⟩⟩
  | tagged kind raw => exact absurd rfl (huntagged kind raw)
  | _ => cases hkind

/-- The names and values of a map can be shown, each by itself. -/
theorem hasText_of_pairs (hv : Plain v) {pairs : List (Value × Value)} (hpairs : v.pairs? = some pairs) :
    ∀ pair ∈ pairs, pair.1.HasText ∧ pair.2.HasText := by
  have hfits := hv.fits
  have hdepth := hv.depth
  cases v with
  | map fields | view fields =>
    cases hpairs
    rw [Value.fits, Value.allFieldsFit_iff] at hfits
    rw [Value.nesting, Nat.add_le_add_iff_right, Value.fieldsNesting_le_iff] at hdepth
    intro pair hpair
    obtain ⟨field, hfield, rfl⟩ := List.mem_map.mp hpair
    exact ⟨⟨rfl, Nat.zero_le _⟩, hfits field hfield, hdepth field hfield⟩
  | entries given =>
    cases hpairs
    rw [Value.fits, Value.allEntriesFit_iff] at hfits
    rw [Value.nesting, Nat.add_le_add_iff_right, Value.pairsNesting_le_iff] at hdepth
    intro pair hpair
    exact ⟨⟨(hfits pair hpair).1, (hdepth pair hpair).1⟩, (hfits pair hpair).2, (hdepth pair hpair).2⟩
  | _ => cases hpairs

end Plain

/-- Among the values whose kind was not decided beforehand the maps are those with names. -/
theorem pairs?_eq_none_iff (hraw : v.raw = v) : v.pairs? = none ↔ v.kind ≠ .mapping := by
  have huntagged := ne_tagged hraw
  cases v with
  | tagged kind raw => exact absurd rfl (huntagged kind raw)
  | _ => simp [Value.pairs?, Value.kind]

theorem exists_pairs (hraw : v.raw = v) (hkind : v.kind = .mapping) : ∃ pairs, v.pairs? = some pairs := by
  cases hpairs : v.pairs? with
  | none => exact absurd hkind ((pairs?_eq_none_iff hraw).mp hpairs)
  | some pairs => exact ⟨pairs, rfl⟩

section

variable (key : Key) (op : String)

theorem write_substring {t : List Glyph} (ht : v.asScalar = .ok t) :
    Format.substring.write key op v =
      .ok [(glyphsOf key.whole, applied op (glyphsOf "*" ++ without ':' t ++ glyphsOf "*"))] := by
  have hdot : ".*" = "." ++ "*" := rfl
  simp only [Format.write, ht, applied, bind, Except.bind, pure, Except.pure, hdot, glyphsOf_append, List.append_assoc]

theorem write_plain {t : List Glyph} (ht : v.asInset = .ok t) :
    Format.plain.write key op v = .ok [(glyphsOf key.whole, applied op t)] := by
  simp only [Format.write, ht, applied, bind, Except.bind, pure, Except.pure]

theorem write_array {items : List Value} {texts : List (List Glyph)} (hv : v.elements? = some items)
    (htexts : items.mapM Value.asScalar = .ok texts) :
    Format.array.write key op v = .ok [(glyphsOf key.whole,
      applied op (glyphsOf "\x7b" ++ without ':' ((glyphsOf ",").intercalate texts) ++ glyphsOf "\x7d"))] := by
  have hbrace : ".\x7b" = "." ++ "\x7b" := rfl
  simp only [Format.write, Value.elements, hv, htexts, applied, bind, Except.bind, pure, Except.pure, hbrace,
    glyphsOf_append, List.append_assoc]

theorem write_paths {pairs : List (Value × Value)} (hv : v.pairs? = some pairs)
    (hpairs : ∀ pair ∈ pairs, pair.1.HasText ∧ pair.2.HasText) :
    Format.paths.write key op v = .ok (Fields.ofPairs (pairs.map (nested op key.field))) := by
  have hwritten : (pairs.mapM fun pair => do
      let name ← path key.field pair.1
      let t ← pair.2.asInset
      return (name, Value.ofGlyphs (glyphsOf (op ++ ".*") ++ t ++ glyphsOf "*"))) =
        .ok (pairs.map (nested op key.field)) := by
    apply Sequence.mapM_eq_ok_map
    intro pair hpair
    obtain ⟨hname, hvalue⟩ := hpairs pair hpair
    have hdot : ".*" = "." ++ "*" := rfl
    simp only [path, hname.fitting, hvalue.asInset, nested, nestedName, applied, bind, Except.bind, pure, Except.pure,
      hdot, glyphsOf_append, List.append_assoc]
  rw [Format.write, hv]
  simp only [bind, Except.bind] at hwritten ⊢
  rw [hwritten]
  rfl

/-- Any value but a map is written in the same way under a key with and without an operator. -/
theorem write_explicit (hv : Plain v) (hmap : v.kind ≠ .mapping) :
    v.kind.explicit.write key op v =
      .ok [(glyphsOf key.whole, applied (writtenOperator (some op) v) (operand v))] := by
  have hscalar (hlist : v.kind ≠ .list) : v.asScalar = .ok v.scalar := (hv.hasText hlist hmap).asScalar
  have hinset (hlist : v.kind ≠ .list) : v.asInset = .ok v.inset := (hv.hasText hlist hmap).asInset
  have huntagged := ne_tagged hv.untagged
  cases v with
  | null => exact congrArg (fun v => Except.ok [(glyphsOf key.whole, v)]) (applied_glyphsOf "is" "null").symm
  | bool _ | int _ | float _ | decimal _ => exact write_plain key op (hinset nofun)
  | text _ | broken _ | operator _ | bytes _ | foreign _ => exact write_substring key op (hscalar nofun)
  | list items | tuple items | set items =>
    obtain ⟨_, hitems, htexts⟩ := hv.exists_items rfl
    cases hitems
    exact write_array key op rfl (Value.scalars_of_hasText htexts)
  | map _ | entries _ | view _ => exact absurd rfl hmap
  | tagged kind raw => exact absurd rfl (huntagged kind raw)

end

theorem implicit_format {kind : Kind} (hkind : kind ≠ .mapping) : kind.implicit.1 = kind.explicit := by
  cases kind with
  | mapping => exact absurd rfl hkind
  | _ => rfl

theorem implicit_operator (hraw : v.raw = v) : v.kind.implicit.2.word = usualOperator v := by
  cases v with
  | tagged kind raw => exact absurd rfl (ne_tagged hraw kind raw)
  | _ => rfl

/-- The kind of a value decides how it is written, be the operator given or implied, as long as it is no map. -/
theorem entry_of_kind {scheme : Scheme} {name : String} {key : Key} (hkey : Key.parse scheme.separator name = .ok key)
    (hraw : v.raw = v) (hkind : v.kind ≠ .mapping) :
    scheme.entry name v = v.kind.explicit.write key (key.operator.getD (usualOperator v)) v := by
  rw [Scheme.entry, hkey, hraw, ← implicit_operator hraw]
  cases hoperator : key.operator with
  | none =>
    rw [← implicit_format hkind]
    simp only [bind, Except.bind, hoperator, Option.getD_none]
  | some op => simp only [bind, Except.bind, hoperator, Option.getD_some]

/-- Lists that lie too deep in an item of a list keep an entry from being written. -/
theorem entry_nestedLists {scheme : Scheme} {name : String} {key : Key}
    (hkey : Key.parse scheme.separator name = .ok key) {levels : Nat} (hdeep : depthLimit < levels) :
    scheme.entry name (Value.nestedLists levels) = .error .tooDeep := by
  obtain ⟨inner, rfl⟩ := Nat.exists_eq_add_of_lt hdeep
  have hitem : (Value.nestedLists (depthLimit + inner)).asScalar = .error .tooDeep :=
    Value.asScalar_nestedLists (Nat.le_add_right _ _)
  have hlist : Value.nestedLists (depthLimit + inner + 1) = .list [Value.nestedLists (depthLimit + inner)] := rfl
  rw [hlist, entry_of_kind hkey rfl (by simp [Value.kind])]
  change Format.array.write key _ (.list [Value.nestedLists (depthLimit + inner)]) = _
  simp only [Format.write, Value.elements, Value.elements?, List.mapM_cons, hitem, bind, Except.bind]

theorem contribution_of_not_map (hpairs : v.pairs? = none) (key : Key) :
    contribution key v = [(glyphsOf key.whole, applied (writtenOperator key.operator v) (operand v))] := by
  rw [contribution, hpairs]

theorem contribution_of_paths {pairs : List (Value × Value)} (hpairs : v.pairs? = some pairs) {key : Key}
    (hkey : key.operator = none) :
    contribution key v = Fields.ofPairs (pairs.map (nested "ilike" key.field)) := by
  rw [contribution, hpairs, hkey]

theorem contribution_of_argument {pairs : List (Value × Value)} (hpairs : v.pairs? = some pairs) {key : Key}
    {op : String} (hkey : key.operator = some op) : contribution key v = [(glyphsOf key.whole, v)] := by
  rw [contribution, hpairs, hkey]

theorem writtenOperator_none (v : Value) : writtenOperator none v = usualOperator v := by
  cases v <;> rfl

theorem writtenOperator_usual (v : Value) : writtenOperator (some (usualOperator v)) v = usualOperator v := by
  cases v <;> rfl

theorem writtenOperator_some (op : String) (hnull : v ≠ .null) : writtenOperator (some op) v = op := by
  cases v with
  | null => exact absurd rfl hnull
  | _ => rfl

theorem writtenOperator_getD (operator : Option String) (v : Value) :
    writtenOperator (some (operator.getD (usualOperator v))) v = writtenOperator operator v := by
  cases v <;> rfl

/-- A map under a key with an operator stays as it is. -/
theorem entry_of_argument {scheme : Scheme} {name op : String} {key : Key}
    (hkey : Key.parse scheme.separator name = .ok key) (hoperator : key.operator = some op) (hraw : v.raw = v)
    (hkind : v.kind = .mapping) : scheme.entry name v = .ok (contribution key v) := by
  obtain ⟨pairs, hpairs⟩ := exists_pairs hraw hkind
  rw [Scheme.entry, hkey, hraw, hkind, contribution_of_argument hpairs hoperator]
  simp only [bind, Except.bind, hoperator]
  rfl

/-- A map under a key without an operator is written entry by entry. -/
theorem entry_of_paths {scheme : Scheme} {name : String} {key : Key} (hkey : Key.parse scheme.separator name = .ok key)
    (hoperator : key.operator = none) (hv : Plain v) (hkind : v.kind = .mapping) :
    scheme.entry name v = .ok (contribution key v) := by
  obtain ⟨pairs, hpairs⟩ := exists_pairs hv.untagged hkind
  rw [Scheme.entry, hkey, hv.untagged, hkind, contribution_of_paths hpairs hoperator]
  simp only [bind, Except.bind, hoperator]
  exact write_paths key _ hpairs (hv.hasText_of_pairs hpairs)

/-- An entry with a plain value is written when its key can be read. -/
theorem entry_of_plain {scheme : Scheme} {name : String} {key : Key} (hkey : Key.parse scheme.separator name = .ok key)
    (hv : Plain v) : scheme.entry name v = .ok (contribution key v) := by
  by_cases hmap : v.kind = .mapping
  · cases hoperator : key.operator with
    | none => exact entry_of_paths hkey hoperator hv hmap
    | some op => exact entry_of_argument hkey hoperator hv.untagged hmap
  · rw [contribution_of_not_map ((pairs?_eq_none_iff hv.untagged).mpr hmap), entry_of_kind hkey hv.untagged hmap,
      write_explicit _ _ hv hmap, writtenOperator_getD]

end

end TableGateway.Filter
