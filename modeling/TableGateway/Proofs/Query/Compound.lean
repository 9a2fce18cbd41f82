import TableGateway.Proofs.Query.Several

/-!
What the match under a compound key tells about the identifiers. The names of the fields may hold any marks of the
clause, but both sides of a comparison spell the same names, so that only the values have to be told apart from what
follows them. A value ends at the first comma or closing bracket: as long as no value holds one of these, every group
can be read off the clause, one after the other, and so can the number of the groups.
-/

namespace TableGateway.Query

open TableGateway.Key TableGateway.Json TableGateway.Number TableGateway.Text
open TableGateway.Operation (Identifier)

/-- The value holds no mark that ends a value inside of a clause. -/
def Clean (value : List Glyph) : Prop := .char ',' ∉ value ∧ .char ')' ∉ value

instance (value : List Glyph) : Decidable (Clean value) := inferInstanceAs (Decidable (_ ∧ _))

/-- What stands before the first mark is determined, and so is what stands after it. -/
theorem before_mark_inj {mark : Glyph} {before before' after after' : List Glyph} (hbefore : mark ∉ before)
    (hbefore' : mark ∉ before') (heq : before ++ mark :: after = before' ++ mark :: after') :
    before = before' ∧ after = after' := by
  induction before generalizing before' with
  | nil =>
    cases before' with
    | nil => exact ⟨rfl, (List.cons.inj heq).2⟩
    | cons glyph before' => exact absurd (List.mem_cons.mpr (.inl (List.cons.inj heq).1)) hbefore'
  | cons glyph before ih =>
    cases before' with
    | nil => exact absurd (List.mem_cons.mpr (.inl (List.cons.inj heq).1.symm)) hbefore
    | cons glyph' before' =>
      obtain ⟨rfl, hrest⟩ := List.cons.inj heq
      rw [List.mem_cons, not_or] at hbefore hbefore'
      obtain ⟨rfl, hafter⟩ := ih hbefore.2 hbefore'.2 hrest
      exact ⟨rfl, hafter⟩

theorem equalities_singleton_append (name : String) (value rest : List Glyph) :
    equalities [name] [value] ++ rest = glyphsOf (name ++ ".eq.") ++ (value ++ rest) := by
  simp [equalities, commaJoined]

theorem equalities_cons_cons_append (name next : String) (value second : List Glyph) (key : PrimaryKey)
    (row : List (List Glyph)) (rest : List Glyph) :
    equalities (name :: next :: key) (value :: second :: row) ++ rest =
      glyphsOf (name ++ ".eq.") ++
        (value ++ .char ',' :: (equalities (next :: key) (second :: row) ++ rest)) := by
  have hcomma : glyphsOf "," = [.char ','] := rfl
  simp [equalities, commaJoined, hcomma]

/-- The row has a value for each field of the key, and all of them are clean. -/
def Legible (key : PrimaryKey) (row : List (List Glyph)) : Prop :=
  row.length = key.length ∧ ∀ value ∈ row, Clean value

theorem legible_nil {row : List (List Glyph)} : Legible [] row ↔ row = [] := by
  simp +contextual [Legible]

theorem legible_cons {name : String} {key : PrimaryKey} {row : List (List Glyph)} (hrow : Legible (name :: key) row) :
    ∃ value others, row = value :: others ∧ Clean value ∧ Legible key others := by
  obtain ⟨hlength, hclean⟩ := hrow
  obtain ⟨value, others, rfl⟩ := List.exists_cons_of_length_eq_add_one hlength
  obtain ⟨hvalue, hothers⟩ := List.forall_mem_cons.mp hclean
  exact ⟨value, others, rfl, hvalue, Nat.succ.inj hlength, hothers⟩

/-- The values of a group and what follows the group can be read off. -/
theorem equalities_inj {key : PrimaryKey} {row row' : List (List Glyph)} {rest rest' : List Glyph}
    (hrow : Legible key row) (hrow' : Legible key row')
    (heq : equalities key row ++ .char ')' :: rest = equalities key row' ++ .char ')' :: rest') :
    row = row' ∧ rest = rest' := by
  induction key generalizing row row' with
  | nil =>
    cases legible_nil.mp hrow
    cases legible_nil.mp hrow'
    exact ⟨rfl, by simpa using heq⟩
  | cons name key ih =>
    obtain ⟨value, others, rfl, hvalue, hothers⟩ := legible_cons hrow
    obtain ⟨value', others', rfl, hvalue', hothers'⟩ := legible_cons hrow'
    -- What ends the first value is a bracket if the key has no other field, else a comma.
    cases key with
    | nil =>
      cases legible_nil.mp hothers
      cases legible_nil.mp hothers'
      rw [equalities_singleton_append, equalities_singleton_append, List.append_cancel_left_eq] at heq
      obtain ⟨hsame, hrest⟩ := before_mark_inj hvalue.2 hvalue'.2 heq
      exact ⟨by rw [hsame], hrest⟩
    | cons next key =>
      obtain ⟨second, more, rfl, -⟩ := legible_cons hothers
      obtain ⟨second', more', rfl, -⟩ := legible_cons hothers'
      rw [equalities_cons_cons_append, equalities_cons_cons_append, List.append_cancel_left_eq] at heq
      obtain ⟨hsame, hfollowing⟩ := before_mark_inj hvalue.1 hvalue'.1 heq
      obtain ⟨hrow, hrest⟩ := ih hothers hothers' hfollowing
      exact ⟨by rw [hsame, hrow], hrest⟩

/-- The groups of several rows. -/
def groups (key : PrimaryKey) (rows : List (List (List Glyph))) : List Glyph :=
  commaJoined (rows.map fun row => glyphsOf "and(" ++ equalities key row ++ glyphsOf ")")

theorem groups_singleton (key : PrimaryKey) (row : List (List Glyph)) :
    groups key [row] = glyphsOf "and(" ++ (equalities key row ++ .char ')' :: []) := by
  have hbracket : glyphsOf ")" = [.char ')'] := rfl
  simp [groups, commaJoined, hbracket]

theorem groups_cons_cons (key : PrimaryKey) (row next : List (List Glyph)) (rows : List (List (List Glyph))) :
    groups key (row :: next :: rows) =
      glyphsOf "and(" ++ (equalities key row ++ .char ')' :: .char ',' :: groups key (next :: rows)) := by
  have hcomma : glyphsOf "," = [.char ','] := rfl
  have hbracket : glyphsOf ")" = [.char ')'] := rfl
  simp [groups, commaJoined, hcomma, hbracket]

/-- The number of groups, their order and their values can be read off. -/
theorem groups_inj {key : PrimaryKey} {rows rows' : List (List (List Glyph))} (hrows : rows ≠ []) (hrows' : rows' ≠ [])
    (hlegible : ∀ row ∈ rows, Legible key row) (hlegible' : ∀ row ∈ rows', Legible key row)
    (heq : groups key rows = groups key rows') : rows = rows' := by
  induction rows generalizing rows' with
  | nil => exact absurd rfl hrows
  | cons row rows ih =>
    obtain ⟨row', rows', rfl⟩ := List.exists_cons_of_ne_nil hrows'
    obtain ⟨hrow, hlegible⟩ := List.forall_mem_cons.mp hlegible
    obtain ⟨hrow', hlegible'⟩ := List.forall_mem_cons.mp hlegible'
    have hread {rest rest' : List Glyph} :
        equalities key row ++ .char ')' :: rest = equalities key row' ++ .char ')' :: rest' →
          row = row' ∧ rest = rest' :=
      equalities_inj hrow hrow'
    -- What follows the first group is nothing or a comma, and it is the same on both sides.
    match rows, rows' with
    | [], [] =>
      rw [groups_singleton, groups_singleton, List.append_cancel_left_eq] at heq
      rw [(hread heq).1]
    | [], next' :: rows' =>
      rw [groups_singleton, groups_cons_cons, List.append_cancel_left_eq] at heq
      exact absurd (hread heq).2 (List.cons_ne_nil _ _).symm
    | next :: rows, [] =>
      rw [groups_singleton, groups_cons_cons, List.append_cancel_left_eq] at heq
      exact absurd (hread heq).2 (List.cons_ne_nil _ _)
    | next :: rows, next' :: rows' =>
      rw [groups_cons_cons, groups_cons_cons, List.append_cancel_left_eq] at heq
      obtain ⟨hsame, hothers⟩ := hread heq
      have hrest : next :: rows = next' :: rows' :=
        ih (List.cons_ne_nil _ _) (List.cons_ne_nil _ _) hlegible hlegible' (List.cons.inj hothers).2
      rw [hsame, hrest]

theorem addresses_compound {key : PrimaryKey} {rows : List (List (List Glyph))} {fields : Fields (List Glyph)}
    (hkey : 2 ≤ key.length) (haddress : Addresses false key rows fields) :
    (∀ row ∈ rows, row.length = key.length) ∧
      ((∃ row, rows = [row] ∧ fields = [("and", glyphsOf "(" ++ equalities key row ++ glyphsOf ")")]) ∨
        2 ≤ rows.length ∧ fields = [("or", glyphsOf "(" ++ groups key rows ++ glyphsOf ")")]) := by
  cases haddress with
  | one | several => simp at hkey
  | all _ hrow => exact ⟨by simpa using hrow, .inl ⟨_, rfl, rfl⟩⟩
  | any _ hseveral hrows => exact ⟨hrows, .inr ⟨hseveral, rfl⟩⟩

/-- The parameters that pick out rows of clean values tell these rows, in order. -/
theorem rows_of_addresses {key : PrimaryKey} {rows rows' : List (List (List Glyph))} {fields : Fields (List Glyph)}
    (hkey : 2 ≤ key.length) (haddress : Addresses false key rows fields)
    (haddress' : Addresses false key rows' fields) (hclean : ∀ row ∈ rows ++ rows', ∀ value ∈ row, Clean value) :
    rows = rows' := by
  obtain ⟨hlength, hform⟩ := addresses_compound hkey haddress
  obtain ⟨hlength', hform'⟩ := addresses_compound hkey haddress'
  have hlegible : ∀ row ∈ rows, Legible key row :=
    fun row hrow => ⟨hlength row hrow, hclean row (List.mem_append_left _ hrow)⟩
  have hlegible' : ∀ row ∈ rows', Legible key row :=
    fun row hrow => ⟨hlength' row hrow, hclean row (List.mem_append_right _ hrow)⟩
  rcases hform with ⟨row, rfl, hfields⟩ | ⟨hseveral, hfields⟩ <;>
    rcases hform' with ⟨row', rfl, hfields'⟩ | ⟨hseveral', hfields'⟩ <;>
    rw [hfields] at hfields'
  · have heq : equalities key row = equalities key row' := by simpa using hfields'
    have hrow := hlegible row (List.mem_singleton_self row)
    have hrow' := hlegible' row' (List.mem_singleton_self row')
    rw [(equalities_inj hrow hrow' (congrArg (· ++ .char ')' :: []) heq)).1]
  · simp at hfields'
  · simp at hfields'
  · have heq : groups key rows = groups key rows' := by simpa using hfields'
    have hrows : rows ≠ [] := List.length_pos_iff.mp (by omega)
    have hrows' : rows' ≠ [] := List.length_pos_iff.mp (by omega)
    exact groups_inj hrows hrows' hlegible hlegible' heq

/-- Rows are picked out by one set of parameters only. -/
theorem addresses_of_rows {key : PrimaryKey} {rows : List (List (List Glyph))} {fields fields' : Fields (List Glyph)}
    (hkey : 2 ≤ key.length) (haddress : Addresses false key rows fields)
    (haddress' : Addresses false key rows fields') : fields = fields' := by
  obtain ⟨-, hform⟩ := addresses_compound hkey haddress
  obtain ⟨-, hform'⟩ := addresses_compound hkey haddress'
  rcases hform with ⟨row, rfl, hfields⟩ | ⟨hseveral, hfields⟩ <;>
    rcases hform' with ⟨row', hrow, hfields'⟩ | ⟨hseveral', hfields'⟩
  · cases hrow
    rw [hfields, hfields']
  · simp at hseveral'
  · subst hrow
    simp at hseveral
  · rw [hfields, hfields']

section

variable {d : Dialect} {key : PrimaryKey} {resource : String}

/-- Lists of identifiers with clean values are matched alike under a compound key exactly when they are decoded to the
same rows. -/
theorem same_clause_iff_same_rows (hkey : isCompound key) (hprocedure : d.isProcedure resource = false)
    {ids ids' : List Identifier} {fields fields' : Fields (List Glyph)}
    (hmatch : d.matching key (ids.map Identifier.toValue) resource = .ok fields)
    (hmatch' : d.matching key (ids'.map Identifier.toValue) resource = .ok fields')
    (hclean : ∀ id ∈ ids ++ ids', ∀ row, decode id.toValue key = .ok row →
      ∀ value ∈ row, .char ',' ∉ value ∧ .char ')' ∉ value) :
    ∃ rows rows', ids.mapM (decode ·.toValue key) = .ok rows ∧ ids'.mapM (decode ·.toValue key) = .ok rows' ∧
      (fields = fields' ↔ rows = rows') ∧ (fields = fields' → ids.length = ids'.length) := by
  have htwo := two_le_of_compound hkey
  have hnonempty : key ≠ [] := List.length_pos_iff.mp (by omega)
  obtain ⟨rows, hrows, haddress⟩ := addresses_of_matching hnonempty hprocedure hmatch
  obtain ⟨rows', hrows', haddress'⟩ := addresses_of_matching hnonempty hprocedure hmatch'
  have hvalues : ∀ row ∈ rows ++ rows', ∀ value ∈ row, Clean value := by
    intro row hrow
    rcases List.mem_append.mp hrow with hrow | hrow
    · obtain ⟨id, hid, hdecode⟩ := Sequence.exists_of_mem_right hrows hrow
      exact hclean id (List.mem_append_left _ hid) row hdecode
    · obtain ⟨id, hid, hdecode⟩ := Sequence.exists_of_mem_right hrows' hrow
      exact hclean id (List.mem_append_right _ hid) row hdecode
  have hsame : fields = fields' ↔ rows = rows' := by
    constructor
    · rintro rfl
      exact rows_of_addresses htwo haddress haddress' hvalues
    · rintro rfl
      exact addresses_of_rows htwo haddress haddress'
  refine ⟨rows, rows', Sequence.mapM_eq_ok_iff.mpr hrows, Sequence.mapM_eq_ok_iff.mpr hrows', hsame, fun heq => ?_⟩
  rw [hrows.length_eq, hrows'.length_eq, hsame.mp heq]

/-- A key whose field names hold marks of the clause. -/
def markedKey : PrimaryKey := ["and(", "b.eq.,)"]

/-- Identifiers whose values hold the marks that do not end a value. -/
def openIds : List Identifier := [.text "[\"a.eq.\", \"or=(and(\"]", .text "[1, null]"]

theorem same_clause_iff_same_rows_marked :
    isCompound markedKey ∧ usual.isProcedure "posts" = false ∧
      (∀ id ∈ openIds ++ openIds.reverse, ∀ row, decode id.toValue markedKey = .ok row →
        ∀ value ∈ row, .char ',' ∉ value ∧ .char ')' ∉ value) ∧
      ∃ fields fields', usual.matching markedKey (openIds.map Identifier.toValue) "posts" = .ok fields ∧
        usual.matching markedKey (openIds.reverse.map Identifier.toValue) "posts" = .ok fields' ∧
        fields ≠ fields' := by
  have hprocedure : usual.isProcedure "posts" = false := by decide
  have hfirst : decode (.text "[\"a.eq.\", \"or=(and(\"]") markedKey = .ok [glyphsOf "a.eq.", glyphsOf "or=(and("] :=
    Sequence.eq_ok_of_toOption (by decide +kernel)
  have hsecond : decode (.text "[1, null]") markedKey = .ok [glyphsOf "1", glyphsOf "null"] :=
    Sequence.eq_ok_of_toOption (by decide +kernel)
  have hread : openIds.mapM (decode ·.toValue markedKey) =
      .ok [[glyphsOf "a.eq.", glyphsOf "or=(and("], [glyphsOf "1", glyphsOf "null"]] :=
    Sequence.mapM_eq_ok_iff.mpr (.cons hfirst (.cons hsecond .nil))
  have hread' : openIds.reverse.mapM (decode ·.toValue markedKey) =
      .ok [[glyphsOf "1", glyphsOf "null"], [glyphsOf "a.eq.", glyphsOf "or=(and("]] :=
    Sequence.mapM_eq_ok_iff.mpr (.cons hsecond (.cons hfirst .nil))
  have hclean : ∀ id ∈ openIds ++ openIds.reverse, ∀ row, decode id.toValue markedKey = .ok row →
      ∀ value ∈ row, Clean value := by
    intro id hid row hrow
    have hmem : id ∈ openIds := by simpa using hid
    rcases List.mem_pair.mp hmem with rfl | rfl
    · cases hfirst.symm.trans hrow
      decide
    · cases hsecond.symm.trans hrow
      decide
  have hsome : ∀ ids ∈ [openIds, openIds.reverse],
      ((usual.matching markedKey (ids.map Identifier.toValue) "posts").toOption).isSome := by
    decide +kernel
  obtain ⟨fields, hfields⟩ := Option.isSome_iff_exists.mp (hsome openIds (by simp))
  obtain ⟨fields', hfields'⟩ := Option.isSome_iff_exists.mp (hsome openIds.reverse (by simp))
  have hmatch := Sequence.eq_ok_of_toOption hfields
  have hmatch' := Sequence.eq_ok_of_toOption hfields'
  refine ⟨rfl, hprocedure, hclean, fields, fields', hmatch, hmatch', fun heq => ?_⟩
  obtain ⟨rows, rows', hrows, hrows', hiff, -⟩ := same_clause_iff_same_rows rfl hprocedure hmatch hmatch' hclean
  cases hread.symm.trans hrows
  cases hread'.symm.trans hrows'
  exact absurd (hiff.mp heq) (by decide)

end

end TableGateway.Query
