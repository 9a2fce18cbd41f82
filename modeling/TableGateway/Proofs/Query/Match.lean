import TableGateway.Proofs.Key.Decoding
import TableGateway.Proofs.Text.Glyph
import TableGateway.Query.Match

/-!
What the match for a list of identifiers says. `Addresses` tells, without reference to how a match is built,
which parameters pick out the rows with given key values. Every match that comes about is of this form for the
key values that its identifiers are decoded to, one row of them for each identifier. Procedures are apart: they
take the values of one key as arguments, and a field that the key repeats is one argument.
-/

namespace TableGateway.Query

open TableGateway.Key TableGateway.Text
open TableGateway.Operation (Identifier)

/-- Equality of all fields of a key with the values of one row. -/
def equalities (key : PrimaryKey) (row : List (List Glyph)) : List Glyph :=
  commaJoined (List.zipWith (fun name value => glyphsOf (name ++ ".eq.") ++ value) key row)

/-- The parameters that pick out the rows with the given key values. -/
inductive Addresses : (procedure : Bool) → PrimaryKey → List (List (List Glyph)) → Fields (List Glyph) → Prop where
  | one (procedure : Bool) (name : String) (value : List Glyph) :
    Addresses procedure [name] [[value]] [(name, glyphsOf "eq." ++ value)]
  | several (name : String) {values : List (List Glyph)} (hseveral : 2 ≤ values.length) :
    Addresses false [name] (values.map fun value => [value])
      [(name, glyphsOf "in.(" ++ commaJoined values ++ glyphsOf ")")]
  | all {key : PrimaryKey} {row : List (List Glyph)} (hkey : 2 ≤ key.length) (hrow : row.length = key.length) :
    Addresses false key [row] [("and", glyphsOf "(" ++ equalities key row ++ glyphsOf ")")]
  | any {key : PrimaryKey} {rows : List (List (List Glyph))} (hkey : 2 ≤ key.length) (hseveral : 2 ≤ rows.length)
      (hrows : ∀ row ∈ rows, row.length = key.length) :
    Addresses false key rows
      [("or", glyphsOf "(" ++
        commaJoined (rows.map fun row => glyphsOf "and(" ++ equalities key row ++ glyphsOf ")") ++ glyphsOf ")")]
  | arguments {key : PrimaryKey} {row : List (List Glyph)} (hkey : 2 ≤ key.length) (hnames : key.Nodup)
      (hrow : row.length = key.length) :
    Addresses true key [row] (key.zip row)

theorem Addresses.ne_nil {procedure : Bool} {key : PrimaryKey} {rows : List (List (List Glyph))}
    {fields : Fields (List Glyph)} (haddress : Addresses procedure key rows fields) : fields ≠ [] := by
  cases haddress with
  | arguments hkey _ hrow =>
    intro hnil
    have hlength := congrArg List.length hnil
    rw [List.length_zip, hrow, Nat.min_self, List.length_nil] at hlength
    omega
  | _ => simp

/-- Outside procedures everything is said in one parameter. -/
theorem Addresses.length_eq_one {key : PrimaryKey} {rows : List (List (List Glyph))} {fields : Fields (List Glyph)}
    (haddress : Addresses false key rows fields) : fields.length = 1 := by
  cases haddress <;> rfl

theorem whole_equalities {key : PrimaryKey} {row : List (List Glyph)} (hrow : ∀ value ∈ row, Whole value) :
    Whole (equalities key row) := by
  refine Whole.commas fun part hpart => ?_
  rw [← List.map_uncurry_zip_eq_zipWith] at hpart
  obtain ⟨⟨name, value⟩, hpair, rfl⟩ := List.mem_map.mp hpart
  exact (whole_glyphsOf _).append (hrow value (List.of_mem_zip hpair).2)

/-- What picks out rows of texts is made of texts. -/
theorem Addresses.whole {procedure : Bool} {key : PrimaryKey} {rows : List (List (List Glyph))}
    {fields : Fields (List Glyph)} (haddress : Addresses procedure key rows fields)
    (hrows : ∀ row ∈ rows, ∀ value ∈ row, Whole value) : ∀ field ∈ fields, Whole field.2 := by
  have hbracketed {start : String} {inner : List Glyph} (hinner : Whole inner) :
      Whole (glyphsOf start ++ inner ++ glyphsOf ")") :=
    ((whole_glyphsOf start).append hinner).append (whole_glyphsOf ")")
  cases haddress with
  | one procedure name value =>
    have hvalue : Whole value := hrows [value] List.mem_cons_self value List.mem_cons_self
    exact List.forall_mem_singleton.mpr ((whole_glyphsOf _).append hvalue)
  | several name _ =>
    refine List.forall_mem_singleton.mpr (hbracketed (Whole.commas fun value hvalue => ?_))
    exact hrows [value] (List.mem_map_of_mem hvalue) value List.mem_cons_self
  | all _ _ =>
    exact List.forall_mem_singleton.mpr (hbracketed (whole_equalities (hrows _ List.mem_cons_self)))
  | any _ _ _ =>
    refine List.forall_mem_singleton.mpr (hbracketed (Whole.commas fun part hpart => ?_))
    obtain ⟨row, hrow, rfl⟩ := List.mem_map.mp hpart
    exact hbracketed (whole_equalities (hrows row hrow))
  | arguments _ _ _ =>
    exact fun field hfield => hrows _ List.mem_cons_self field.2 (List.of_mem_zip hfield).2

theorem condition_eq : condition = fun name value => glyphsOf (name ++ ".eq.") ++ value := by
  funext name value
  have hmarks : name ++ "." ++ "eq" ++ "." = name ++ ".eq." := by
    simp only [String.append_assoc]
    rfl
  exact congrArg (glyphsOf · ++ value) hmarks

theorem group_eq (key : PrimaryKey) (row : List (List Glyph)) :
    group key row = glyphsOf "(" ++ equalities key row ++ glyphsOf ")" := by
  rw [group, condition_eq, equalities]

theorem names_zip {α : Type} {key : PrimaryKey} {values : List α} (hlength : values.length = key.length) :
    Fields.names (key.zip values) = key :=
  List.map_fst_zip (by omega)

section

variable {d : Dialect} {key : PrimaryKey} {resource : String}

theorem matchOne_field {name : String} {id : Identifier} {value : List Glyph}
    (hvalue : id.toValue.asScalar = .ok value) :
    d.matchOne [name] id.toValue resource = .ok [(name, glyphsOf "eq." ++ value)] := by
  have hfield : isCompound [name] = false := rfl
  rw [Dialect.matchOne, hfield, asInset_toValue, hvalue]
  rfl

theorem matchOne_compound (hkey : isCompound key) (hprocedure : d.isProcedure resource = false) {id : Value}
    {row : List (List Glyph)} (hrow : decode id key = .ok row) :
    d.matchOne key id resource = .ok [("and", glyphsOf "(" ++ equalities key row ++ glyphsOf ")")] := by
  rw [Dialect.matchOne, if_pos hkey, hrow, hprocedure, ← group_eq]
  rfl

theorem matchOne_arguments (hkey : isCompound key) (hprocedure : d.isProcedure resource) {id : Value}
    {row : List (List Glyph)} (hrow : decode id key = .ok row) :
    d.matchOne key id resource = .ok (Fields.ofPairs (key.zip row)) := by
  rw [Dialect.matchOne, if_pos hkey, hrow, hprocedure]
  rfl

theorem matchMany_field {name : String} (hprocedure : d.isProcedure resource = false) {ids : List Value}
    {values : List (List Glyph)} (hvalues : ids.mapM Value.asScalar = .ok values) :
    d.matchMany [name] ids resource = .ok [(name, glyphsOf "in.(" ++ commaJoined values ++ glyphsOf ")")] := by
  have hfield : isCompound [name] = false := rfl
  rw [Dialect.matchMany, hprocedure, hfield, hvalues]
  rfl

theorem matchMany_compound (hkey : isCompound key) (hprocedure : d.isProcedure resource = false)
    {ids : List Value} {rows : List (List (List Glyph))}
    (hrows : List.Forall₂ (fun id row => decode id key = .ok row) ids rows) :
    d.matchMany key ids resource =
      .ok [("or", glyphsOf "(" ++
        commaJoined (rows.map fun row => glyphsOf "and(" ++ equalities key row ++ glyphsOf ")") ++ glyphsOf ")")] := by
  have hgroups : ∀ row, glyphsOf Operator.and.word ++ group key row =
      glyphsOf "and(" ++ equalities key row ++ glyphsOf ")" := by
    intro row
    rw [group_eq]
    rfl
  rw [Dialect.matchMany, hprocedure, if_pos hkey, Sequence.mapM_eq_ok_iff.mpr hrows]
  simp only [hgroups]
  rfl

theorem matchOne_of_decode {id : Identifier} {row : List (List Glyph)} (hkey : key ≠ [])
    (hnames : d.isProcedure resource → key.Nodup) (hrow : decode id.toValue key = .ok row) :
    ∃ fields, d.matchOne key id.toValue resource = .ok fields ∧
      Addresses (d.isProcedure resource) key [row] fields := by
  cases hcompound : isCompound key with
  | false =>
    obtain ⟨name, rfl⟩ := field_of_not_compound hkey hcompound
    obtain ⟨value, hvalue, rfl⟩ := decode_field.mp hrow
    exact ⟨_, matchOne_field hvalue, .one _ name value⟩
  | true =>
    have htwo := two_le_of_compound hcompound
    have hlength := length_of_decode hcompound hrow
    cases hprocedure : d.isProcedure resource with
    | false => exact ⟨_, matchOne_compound hcompound hprocedure hrow, .all htwo hlength⟩
    | true =>
      have hdistinct := hnames hprocedure
      have hzip : (Fields.names (key.zip row)).Nodup := by
        rw [names_zip hlength]
        exact hdistinct
      refine ⟨key.zip row, ?_, .arguments htwo hdistinct hlength⟩
      rw [matchOne_arguments hcompound hprocedure hrow, Fields.ofPairs_of_nodup hzip]

theorem matchMany_of_decode {ids : List Identifier} {rows : List (List (List Glyph))} (hkey : key ≠ [])
    (hprocedure : d.isProcedure resource = false) (hseveral : 2 ≤ ids.length)
    (hrows : List.Forall₂ (fun id row => decode id.toValue key = .ok row) ids rows) :
    ∃ fields, d.matchMany key (ids.map Identifier.toValue) resource = .ok fields ∧
      Addresses false key rows fields := by
  rw [hrows.length_eq] at hseveral
  cases hcompound : isCompound key with
  | false =>
    obtain ⟨name, rfl⟩ := field_of_not_compound hkey hcompound
    obtain ⟨values, hvalues, rfl⟩ := scalars_of_decode_field (List.forall₂_map_left_iff.mpr hrows)
    rw [List.length_map] at hseveral
    exact ⟨_, matchMany_field hprocedure hvalues, .several name hseveral⟩
  | true =>
    refine ⟨_, matchMany_compound hcompound hprocedure (List.forall₂_map_left_iff.mpr hrows), ?_⟩
    refine .any (two_le_of_compound hcompound) hseveral fun row hrow => ?_
    obtain ⟨id, -, hid⟩ := Sequence.exists_of_mem_right hrows hrow
    exact length_of_decode hcompound hid

/-- Identifiers that can be decoded are matched by what addresses their key values. -/
theorem matching_of_decode {ids : List Identifier} {rows : List (List (List Glyph))} (hkey : key ≠ [])
    (hnames : d.isProcedure resource → key.Nodup) (hids : ids ≠ [])
    (hone : ids.length = 1 ∨ d.isProcedure resource = false)
    (hrows : List.Forall₂ (fun id row => decode id.toValue key = .ok row) ids rows) :
    ∃ fields, d.matching key (ids.map Identifier.toValue) resource = .ok fields ∧
      Addresses (d.isProcedure resource) key rows fields := by
  match ids, hids with
  | [id], _ =>
    rcases hrows with _ | ⟨hrow, ⟨⟩⟩
    exact matchOne_of_decode hkey hnames hrow
  | first :: second :: rest, _ =>
    have hprocedure : d.isProcedure resource = false := by
      rcases hone with hone | hprocedure
      · simp at hone
      · exact hprocedure
    rw [hprocedure]
    exact matchMany_of_decode hkey hprocedure (by simp) hrows

theorem decode_of_matchOne {id : Identifier} {fields : Fields (List Glyph)} (hkey : key ≠ [])
    (hmatch : d.matchOne key id.toValue resource = .ok fields) : ∃ row, decode id.toValue key = .ok row := by
  rw [Dialect.matchOne] at hmatch
  cases hcompound : isCompound key with
  | false =>
    obtain ⟨name, rfl⟩ := field_of_not_compound hkey hcompound
    rw [hcompound, asInset_toValue] at hmatch
    obtain ⟨value, hvalue, -⟩ := Sequence.bind_eq_ok_iff.mp hmatch
    exact ⟨[value], decode_field.mpr ⟨value, hvalue, rfl⟩⟩
  | true =>
    rw [if_pos hcompound] at hmatch
    obtain ⟨row, hrow, -⟩ := Sequence.bind_eq_ok_iff.mp hmatch
    exact ⟨row, hrow⟩

theorem decode_of_matchMany {ids : List Identifier} {fields : Fields (List Glyph)} (hkey : key ≠ [])
    (hprocedure : d.isProcedure resource = false)
    (hmatch : d.matchMany key (ids.map Identifier.toValue) resource = .ok fields) :
    ∃ rows, List.Forall₂ (fun id row => decode id.toValue key = .ok row) ids rows := by
  rw [Dialect.matchMany, hprocedure] at hmatch
  cases hcompound : isCompound key with
  | false =>
    obtain ⟨name, rfl⟩ := field_of_not_compound hkey hcompound
    rw [hcompound] at hmatch
    obtain ⟨values, hvalues, -⟩ := Sequence.bind_eq_ok_iff.mp hmatch
    have hscalars := List.forall₂_map_left_iff.mp (Sequence.mapM_eq_ok_iff.mp hvalues)
    refine ⟨values.map fun value => [value], List.forall₂_map_right_iff.mpr ?_⟩
    exact hscalars.imp fun id value hvalue => decode_field.mpr ⟨value, hvalue, rfl⟩
  | true =>
    rw [if_pos hcompound] at hmatch
    obtain ⟨rows, hrows, -⟩ := Sequence.bind_eq_ok_iff.mp hmatch
    exact ⟨rows, List.forall₂_map_left_iff.mp (Sequence.mapM_eq_ok_iff.mp hrows)⟩

/-- Outside procedures a match comes about only for identifiers that can be decoded, at least one. -/
theorem decode_of_matching {ids : List Identifier} {fields : Fields (List Glyph)} (hkey : key ≠ [])
    (hprocedure : d.isProcedure resource = false)
    (hmatch : d.matching key (ids.map Identifier.toValue) resource = .ok fields) :
    ids ≠ [] ∧ ∃ rows, List.Forall₂ (fun id row => decode id.toValue key = .ok row) ids rows := by
  match ids with
  | [] => cases hmatch
  | [id] =>
    obtain ⟨row, hrow⟩ := decode_of_matchOne hkey hmatch
    exact ⟨by simp, [row], .cons hrow .nil⟩
  | first :: second :: rest => exact ⟨by simp, decode_of_matchMany hkey hprocedure hmatch⟩

/-- What is matched outside procedures addresses the decoded key values. -/
theorem addresses_of_matching {ids : List Identifier} {fields : Fields (List Glyph)} (hkey : key ≠ [])
    (hprocedure : d.isProcedure resource = false)
    (hmatch : d.matching key (ids.map Identifier.toValue) resource = .ok fields) :
    ∃ rows, List.Forall₂ (fun id row => decode id.toValue key = .ok row) ids rows ∧
      Addresses false key rows fields := by
  obtain ⟨hids, rows, hrows⟩ := decode_of_matching hkey hprocedure hmatch
  have hnames : d.isProcedure resource → key.Nodup := by simp [hprocedure]
  obtain ⟨found, hfound, haddress⟩ := matching_of_decode hkey hnames hids (.inr hprocedure) hrows
  rw [hmatch] at hfound
  cases hfound
  rw [hprocedure] at haddress
  exact ⟨rows, hrows, haddress⟩

theorem matching_of_several {ids : List Value} (hseveral : 2 ≤ ids.length) :
    d.matching key ids resource = d.matchMany key ids resource := by
  match ids, hseveral with
  | first :: second :: rest, _ => rfl

theorem several_on_procedure {ids : List Identifier} (hprocedure : d.isProcedure resource)
    (hseveral : 2 ≤ ids.length) :
    d.matching key (ids.map Identifier.toValue) resource =
      .error (.unsupported (.text resource) (.text severalOnProcedure)) := by
  rw [← List.length_map Identifier.toValue] at hseveral
  rw [matching_of_several hseveral, Dialect.matchMany, if_pos hprocedure]

theorem one_on_procedure {ids : List Identifier} {fields : Fields (List Glyph)} (hprocedure : d.isProcedure resource)
    (hmatch : d.matching key (ids.map Identifier.toValue) resource = .ok fields) : ∃ id, ids = [id] := by
  match ids with
  | [] => cases hmatch
  | [id] => exact ⟨id, rfl⟩
  | first :: second :: rest =>
    have hseveral : 2 ≤ (first :: second :: rest).length := by simp
    rw [several_on_procedure hprocedure hseveral] at hmatch
    cases hmatch

theorem names_of_arguments {id : Value} {fields : Fields (List Glyph)} (hkey : isCompound key)
    (hprocedure : d.isProcedure resource) (hone : d.matchOne key id resource = .ok fields) :
    fields.names.Nodup ∧ ∀ name, name ∈ fields.names ↔ name ∈ key := by
  rw [Dialect.matchOne, if_pos hkey] at hone
  obtain ⟨row, hrow, harguments⟩ := Sequence.bind_eq_ok_iff.mp hone
  rw [if_pos hprocedure] at harguments
  cases harguments
  refine ⟨Fields.nodup_names_ofPairs _, fun name => ?_⟩
  rw [Fields.mem_names_ofPairs]
  change name ∈ Fields.names (key.zip row) ↔ _
  rw [names_zip (length_of_decode hkey hrow)]

/-- A procedure gets one argument for each field of a key, also when the key repeats a field. -/
theorem arguments_of_matching {ids : List Identifier} {fields : Fields (List Glyph)} (hkey : key ≠ [])
    (hprocedure : d.isProcedure resource)
    (hmatch : d.matching key (ids.map Identifier.toValue) resource = .ok fields) :
    ids.length = 1 ∧ fields.names.Nodup ∧ ∀ name, name ∈ fields.names ↔ name ∈ key := by
  obtain ⟨id, rfl⟩ := one_on_procedure hprocedure hmatch
  refine ⟨rfl, ?_⟩
  have hone : d.matchOne key id.toValue resource = .ok fields := hmatch
  cases hcompound : isCompound key with
  | true => exact names_of_arguments hcompound hprocedure hone
  | false =>
    obtain ⟨name, rfl⟩ := field_of_not_compound hkey hcompound
    rw [Dialect.matchOne, hcompound] at hone
    obtain ⟨value, -, hfields⟩ := Sequence.bind_eq_ok_iff.mp hone
    cases hfields
    simp [Fields.names]

/-- The first identifier that has no values decides the failure of a match. -/
theorem matching_eq_error {before after : List Identifier} {id : Identifier} {failure : Failure}
    (hkey : isCompound key) (hone : before ++ after = [] ∨ d.isProcedure resource = false)
    (hbefore : ∀ x ∈ before, ∃ row, decode x.toValue key = .ok row)
    (hid : decode id.toValue key = .error failure) :
    d.matching key ((before ++ id :: after).map Identifier.toValue) resource = .error failure := by
  have hall : ((before ++ id :: after).map Identifier.toValue).mapM (decode · key) = .error failure := by
    rw [List.map_append, List.map_cons]
    refine Sequence.mapM_eq_error (f := (decode · key)) (fun v hv => ?_) hid
    obtain ⟨x, hx, rfl⟩ := List.mem_map.mp hv
    exact hbefore x hx
  -- A single identifier is matched on its own, where its failure is the only one that can occur.
  by_cases halone : before ++ after = []
  · obtain ⟨rfl, rfl⟩ := List.append_eq_nil_iff.mp halone
    change d.matchOne key id.toValue resource = _
    rw [Dialect.matchOne, if_pos hkey, hid]
    rfl
  · have hprocedure := hone.resolve_left halone
    have hseveral : 2 ≤ ((before ++ id :: after).map Identifier.toValue).length := by
      have hpos := List.length_pos_iff.mpr halone
      simp only [List.length_map, List.length_append, List.length_cons] at hpos ⊢
      omega
    rw [matching_of_several hseveral, Dialect.matchMany, hprocedure, if_pos hkey, hall]
    rfl

/-- There is no match on a key without fields. -/
theorem key_ne_nil_of_matching {ids : List Value} {fields : Fields (List Glyph)}
    (hmatch : d.matching key ids resource = .ok fields) : key ≠ [] := by
  rintro rfl
  match ids with
  | [] => cases hmatch
  | [id] =>
    obtain ⟨value, -, hnone⟩ := Sequence.bind_eq_ok_iff.mp (show d.matchOne [] id resource = .ok fields from hmatch)
    cases hnone
  | first :: second :: rest =>
    rw [matching_of_several (by simp), Dialect.matchMany] at hmatch
    split at hmatch
    · cases hmatch
    · obtain ⟨values, -, hnone⟩ := Sequence.bind_eq_ok_iff.mp hmatch
      cases hnone

end

end TableGateway.Query
