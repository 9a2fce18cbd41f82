import TableGateway.Proofs.Key.Identifier
import TableGateway.Proofs.Query.Several

/-!
The match for several identifiers and the matches for each of them alone. The two are built apart from each other, yet
they select the same rows: several identifiers are matched exactly when each is, and the conditions are then those of
the single matches, joined in order. When they are not matched, the failure is that of the first identifier that is
refused on its own.
-/

namespace TableGateway.Query

open TableGateway.Key TableGateway.Json TableGateway.Number TableGateway.Text
open TableGateway.Operation (Identifier)

/-- The match for one identifier given by itself. -/
def Dialect.alone (d : Dialect) (key : PrimaryKey) (resource : String) (id : Identifier) :
    Except Failure (Fields (List Glyph)) :=
  d.matching key (idsOf id.toValue) resource

/-- The match for identifiers given in a list. -/
def Dialect.together (d : Dialect) (key : PrimaryKey) (resource : String) (ids : List Identifier) :
    Except Failure (Fields (List Glyph)) :=
  d.matching key (idsOf (.list (ids.map Identifier.toValue))) resource

/-- How the matches for single identifiers are joined. Under a key of one field the values after `eq.` become a list;
under a compound key the clauses become alternatives. -/
inductive Joins : PrimaryKey → List (Fields (List Glyph)) → Fields (List Glyph) → Prop where
  | values (name : String) (values : List (List Glyph)) :
    Joins [name] (values.map fun value => [(name, glyphsOf "eq." ++ value)])
      [(name, glyphsOf "in.(" ++ commaJoined values ++ glyphsOf ")")]
  | clauses {key : PrimaryKey} (hkey : isCompound key) (clauses : List (List Glyph)) :
    Joins key (clauses.map fun clause => [("and", clause)])
      [("or", glyphsOf "(" ++ commaJoined (clauses.map (glyphsOf "and" ++ ·)) ++ glyphsOf ")")]

section

variable {d : Dialect} {key : PrimaryKey} {resource : String}

theorem alone_eq (id : Identifier) :
    d.alone key resource id = d.matching key ([id].map Identifier.toValue) resource := by
  cases id <;> rfl

theorem together_eq (ids : List Identifier) :
    d.together key resource ids = d.matching key (ids.map Identifier.toValue) resource := rfl

theorem alone_of_decode {id : Identifier} {row : List (List Glyph)} (hkey : key ≠ [])
    (hprocedure : d.isProcedure resource = false) (hrow : decode id.toValue key = .ok row) :
    ∃ fields, d.alone key resource id = .ok fields := by
  have hnames : d.isProcedure resource → key.Nodup := by simp [hprocedure]
  obtain ⟨fields, hfields, -⟩ := matchOne_of_decode hkey hnames hrow
  exact ⟨fields, (alone_eq id).trans hfields⟩

theorem decode_of_alone {id : Identifier} {fields : Fields (List Glyph)} (hkey : key ≠ [])
    (halone : d.alone key resource id = .ok fields) : ∃ row, decode id.toValue key = .ok row := by
  rw [alone_eq] at halone
  exact decode_of_matchOne hkey halone

/-- Identifiers are matched together exactly when each of them is matched alone. -/
theorem together_ok_iff {ids : List Identifier} (hkey : key ≠ []) (hprocedure : d.isProcedure resource = false)
    (hids : ids ≠ []) :
    (∃ fields, d.together key resource ids = .ok fields) ↔
      ∀ id ∈ ids, ∃ fields, d.alone key resource id = .ok fields := by
  constructor
  · rintro ⟨fields, hfields⟩
    obtain ⟨-, rows, hrows⟩ := decode_of_matching hkey hprocedure hfields
    intro id hid
    obtain ⟨row, -, hrow⟩ := Sequence.exists_of_mem_right hrows.flip hid
    exact alone_of_decode hkey hprocedure hrow
  · intro hall
    have hdecode : ∀ id ∈ ids, ∃ row, decode id.toValue key = .ok row := by
      intro id hid
      obtain ⟨fields, hfields⟩ := hall id hid
      exact decode_of_alone hkey hfields
    obtain ⟨rows, hrows⟩ := Sequence.exists_forall₂ hdecode
    have hnames : d.isProcedure resource → key.Nodup := by simp [hprocedure]
    obtain ⟨fields, hfields, -⟩ := matching_of_decode hkey hnames hids (.inr hprocedure) hrows
    exact ⟨fields, hfields⟩

/-- What is matched together is what the single matches are joined to. -/
theorem joins_of_together {ids : List Identifier} {fields : Fields (List Glyph)} (hkey : key ≠ [])
    (hprocedure : d.isProcedure resource = false) (hseveral : 2 ≤ ids.length)
    (htogether : d.together key resource ids = .ok fields) :
    ∃ singles, ids.mapM (d.alone key resource) = .ok singles ∧ Joins key singles fields := by
  obtain ⟨-, rows, hrows⟩ := decode_of_matching hkey hprocedure htogether
  rw [together_eq, matching_of_several (by simpa using hseveral)] at htogether
  cases hcompound : isCompound key with
  | false =>
    obtain ⟨name, rfl⟩ := field_of_not_compound hkey hcompound
    obtain ⟨values, hvalues, -⟩ := scalars_of_decode_field (List.forall₂_map_left_iff.mpr hrows)
    rw [matchMany_field hprocedure hvalues] at htogether
    cases htogether
    refine ⟨values.map fun value => [(name, glyphsOf "eq." ++ value)], ?_, .values name values⟩
    rw [Sequence.mapM_eq_ok_iff, List.forall₂_map_right_iff]
    refine (List.forall₂_map_left_iff.mp (Sequence.mapM_eq_ok_iff.mp hvalues)).imp fun id value hvalue => ?_
    exact (alone_eq id).trans (matchOne_field hvalue)
  | true =>
    rw [matchMany_compound hcompound hprocedure (List.forall₂_map_left_iff.mpr hrows)] at htogether
    cases htogether
    let clauses := rows.map fun row => glyphsOf "(" ++ equalities key row ++ glyphsOf ")"
    have hgroups : (rows.map fun row => glyphsOf "and(" ++ equalities key row ++ glyphsOf ")") =
        clauses.map (glyphsOf "and" ++ ·) := by
      rw [List.map_map]
      rfl
    refine ⟨clauses.map fun clause => [("and", clause)], ?_, hgroups ▸ .clauses hcompound clauses⟩
    rw [Sequence.mapM_eq_ok_iff, List.map_map, List.forall₂_map_right_iff]
    refine hrows.imp fun id row hrow => ?_
    exact (alone_eq id).trans (matchOne_compound hcompound hprocedure hrow)

/-- Under a key of one field every identifier that can be written is decoded. -/
theorem isCompound_of_decode_error {id : Identifier} {failure : Failure} (hkey : key ≠ []) (hfits : id.toValue.fits)
    (hdecode : decode id.toValue key = .error failure) : isCompound key := by
  by_contra hfield
  obtain ⟨row, hrow⟩ := decode_plain hkey hfits fun hcompound => absurd hcompound hfield
  rw [hrow] at hdecode
  cases hdecode

/-- When identifiers are not matched together, the failure is that of the first one that is not matched alone. -/
theorem failure_of_together {ids : List Identifier} {failure : Failure} (hkey : key ≠ [])
    (hprocedure : d.isProcedure resource = false) (hids : ids ≠ []) (hfits : ∀ id ∈ ids, id.toValue.fits)
    (htogether : d.together key resource ids = .error failure) :
    ∃ before id after, ids = before ++ id :: after ∧ (∀ x ∈ before, ∃ fields, d.alone key resource x = .ok fields) ∧
      d.alone key resource id = .error failure ∧
      (Json.read id.toValue.display ≠ .error .tooDeep → failure = .identifier id.toValue (key.map .text)) ∧
      (id.SpellsBeyond key → failure = .tooDeep) := by
  rcases Sequence.forall_or_first (fun id : Identifier => ∃ row, decode id.toValue key = .ok row) ids with
    hall | ⟨before, id, after, rfl, hbefore, hid⟩
  · have hok := (together_ok_iff hkey hprocedure hids).mpr fun id hid => by
      obtain ⟨row, hrow⟩ := hall id hid
      exact alone_of_decode hkey hprocedure hrow
    exact absurd hok (Sequence.exists_eq_error_iff.mp ⟨failure, htogether⟩)
  · obtain ⟨refusal, hdecode⟩ := Sequence.exists_eq_error_iff.mpr hid
    have hid_fits := hfits id (by simp)
    have hcompound := isCompound_of_decode_error hkey hid_fits hdecode
    have halone : d.matching key (([] ++ id :: []).map Identifier.toValue) resource = .error refusal :=
      matching_eq_error hcompound (.inl rfl) (by simp) hdecode
    rw [together_eq, matching_eq_error hcompound (.inr hprocedure) hbefore hdecode] at htogether
    cases htogether
    refine ⟨before, id, after, rfl, fun x hx => ?_, (alone_eq id).trans halone, fun hread => ?_, fun hbeyond => ?_⟩
    · obtain ⟨row, hrow⟩ := hbefore x hx
      exact alone_of_decode hkey hprocedure hrow
    · rcases decode_eq_error hcompound hid_fits hdecode with ⟨hfailure, -⟩ | ⟨-, hdeep⟩
      · exact hfailure
      · exact absurd hdeep hread
    · rw [decode_tooDeep hcompound hid_fits hbeyond.1] at hdecode
      exact (Except.error.inj hdecode).symm

/-- Identifiers given in a list and the same identifiers given one by one. A list of one is matched as the identifier by
itself. Several are matched exactly when each is, by what the single matches are joined to. Otherwise the failure is
that of the first identifier that is refused on its own: it does not spell an array of the key, or it spells one in
which arrays are nested too deep. -/
theorem together_agrees_with_alone (hkey : key ≠ []) {ids : List Identifier} (hfits : ∀ id ∈ ids, id.toValue.fits) :
    (∀ id, ids = [id] → d.together key resource ids = d.alone key resource id) ∧
      (2 ≤ ids.length → d.isProcedure resource = false →
        ((∃ fields, d.together key resource ids = .ok fields) ↔
          ∀ id ∈ ids, ∃ fields, d.alone key resource id = .ok fields) ∧
        (∀ fields, d.together key resource ids = .ok fields →
          ∃ singles, ids.mapM (d.alone key resource) = .ok singles ∧ Joins key singles fields) ∧
        ∀ failure, d.together key resource ids = .error failure →
          ∃ before id after, ids = before ++ id :: after ∧
            (∀ x ∈ before, ∃ fields, d.alone key resource x = .ok fields) ∧
            d.alone key resource id = .error failure ∧
            (Json.read id.toValue.display ≠ .error .tooDeep → failure = .identifier id.toValue (key.map .text)) ∧
            (id.SpellsBeyond key → failure = .tooDeep)) := by
  refine ⟨?_, fun hseveral hprocedure => ?_⟩
  · rintro id rfl
    rw [alone_eq, together_eq]
  · have hids : ids ≠ [] := List.length_pos_iff.mp (by omega)
    refine ⟨together_ok_iff hkey hprocedure hids, ?_, ?_⟩
    · exact fun fields => joins_of_together hkey hprocedure hseveral
    · exact fun failure => failure_of_together hkey hprocedure hids hfits

/-- Three identifiers, two of them alike. -/
def repeatedIds : List Identifier := [.text "[1,2]", .text "[true, \"x\"]", .text "[1,2]"]

theorem together_agrees_with_alone_repeated :
    (["a", "b"] : PrimaryKey) ≠ [] ∧ (∀ id ∈ repeatedIds, id.toValue.fits) ∧ 2 ≤ repeatedIds.length ∧
      usual.isProcedure "posts" = false ∧
      ∃ fields singles, usual.together ["a", "b"] "posts" repeatedIds = .ok fields ∧
        repeatedIds.mapM (usual.alone ["a", "b"] "posts") = .ok singles ∧ Joins ["a", "b"] singles fields := by
  have hfits : ∀ id ∈ repeatedIds, id.toValue.fits := by decide
  have hprocedure : usual.isProcedure "posts" = false := by decide
  have hseveral : 2 ≤ repeatedIds.length := by decide
  have hsome : ((usual.together ["a", "b"] "posts" repeatedIds).toOption).isSome := by decide +kernel
  obtain ⟨fields, hfields⟩ := Option.isSome_iff_exists.mp hsome
  have htogether := Sequence.eq_ok_of_toOption hfields
  obtain ⟨-, hagree⟩ := together_agrees_with_alone (List.cons_ne_nil "a" ["b"]) hfits
  obtain ⟨-, hjoins, -⟩ := hagree hseveral hprocedure
  obtain ⟨singles, hsingles, hjoined⟩ := hjoins fields htogether
  exact ⟨List.cons_ne_nil _ _, hfits, hseveral, hprocedure, fields, singles, htogether, hsingles, hjoined⟩

/-- An identifier in which lists lie 1200 deep, followed by another one. -/
def deepIds : List Identifier := [.text (compoundText (deepRecord 1199) ["a", "b"]), .text "[1,2]"]

/-- Not every identifier that is refused is refused as one that does not spell an array of the key: the first one here
spells such an array, but beyond the depth that can be read. -/
theorem deep_identifier_refused_apart :
    isCompound ["a", "b"] ∧ usual.isProcedure "posts" = false ∧ (∀ id ∈ deepIds, id.toValue.fits) ∧
      2 ≤ deepIds.length ∧
      (Identifier.text (compoundText (deepRecord 1199) ["a", "b"])).SpellsBeyond ["a", "b"] ∧
      usual.together ["a", "b"] "posts" deepIds = .error .tooDeep ∧
      ∀ id ∈ deepIds, usual.together ["a", "b"] "posts" deepIds ≠
        .error (.identifier id.toValue [.text "a", .text "b"]) := by
  have hbeyond := spellsBeyond_deepRecord 1199 (by decide)
  have hdecode : decode (Identifier.text (compoundText (deepRecord 1199) ["a", "b"])).toValue ["a", "b"] =
      .error .tooDeep := decode_tooDeep rfl rfl hbeyond.1
  have htogether : usual.together ["a", "b"] "posts" ([] ++ deepIds) = .error .tooDeep :=
    matching_eq_error rfl (.inr (by decide)) (by simp) hdecode
  rw [List.nil_append] at htogether
  refine ⟨rfl, by decide, ?_, by decide, hbeyond, htogether, fun id _ => ?_⟩
  · simp [deepIds, Identifier.toValue, Value.fits]
  · simp [htogether]

end

end TableGateway.Query
