import TableGateway.Proofs.Fields.Joined
import TableGateway.Proofs.Filter.Scheme

/-!
Filters as a whole. Every entry contributes parameters of its own, a map one for each text that its names have and every
other value one under the key as it was given. Two entries can contribute the same name, a literal key and a path into a
map for instance. The later one then prevails, in the place of the first one, and nothing else gets lost.
-/

namespace TableGateway.Filter

open TableGateway.Json TableGateway.Number TableGateway.Text

/-- The names of the parameters that an entry contributes. -/
def contributedNames (mark : Char) (name : String) (v : Value) : List (List Glyph) :=
  match v.pairs? with
  | some pairs =>
    if mark ∈ name.toList then [glyphsOf name] else (pairs.map fun pair => nestedName name pair.1).eraseDups
  | none => [glyphsOf name]

section

variable {scheme : Scheme} {mark : Char} {name : String} {v : Value}

theorem nodup_contributedNames (mark : Char) (name : String) (v : Value) : (contributedNames mark name v).Nodup := by
  unfold contributedNames
  split
  · split
    · exact List.nodup_singleton _
    · exact Fields.nodup_eraseDups _
  · exact List.nodup_singleton _

/-- A map under a key without the mark contributes once for each name, provided that no two names have one text. -/
theorem contributedNames_of_nodup {pairs : List (Value × Value)} (hpairs : v.pairs? = some pairs)
    (hname : mark ∉ name.toList) (htexts : (pairs.map fun pair => pair.1.script).Nodup) :
    contributedNames mark name v = pairs.map fun pair => nestedName name pair.1 := by
  have hnames : (pairs.map fun pair => nestedName name pair.1).Nodup := by
    have hpath : (pairs.map fun pair => nestedName name pair.1) =
        (pairs.map fun pair => pair.1.script).map (glyphsOf (name ++ "->>") ++ ·) := by
      rw [List.map_map]
      rfl
    rw [hpath]
    exact htexts.map fun text other heq => List.append_cancel_left heq
  rw [contributedNames, hpairs]
  simp only [if_neg hname]
  exact Fields.eraseDups_of_nodup hnames

theorem names_contribution {key : Key} (hwhole : key.whole = name)
    (hoperator : key.operator = none ↔ mark ∉ name.toList) (hfield : key.operator = none → key.field = name)
    (v : Value) :
    Fields.names (contribution key v) = contributedNames mark name v := by
  cases hpairs : v.pairs? with
  | none =>
    rw [contribution_of_not_map hpairs, contributedNames, hpairs, hwhole]
    rfl
  | some pairs =>
    rw [contributedNames, hpairs]
    cases hkey : key.operator with
    | none =>
      rw [contribution_of_paths hpairs hkey, Fields.names_ofPairs, Fields.names, List.map_map, hfield hkey]
      simp only [if_neg (hoperator.mp hkey)]
      rfl
    | some op =>
      have hmark : mark ∈ name.toList := by simpa [hkey] using hoperator
      rw [contribution_of_argument hpairs hkey, hwhole]
      simp only [if_pos hmark]
      rfl

/-- An admitted entry contributes under its key, or under the paths into the map that it holds. -/
theorem names_of_entry (hmark : scheme.separator = String.singleton mark) (hname : Key.WellFormed mark name)
    (hv : Admitted mark (name, v)) :
    ∃ part, scheme.entry name v = .ok part ∧ part.names = contributedNames mark name v ∧
      ∀ pairs, v.pairs? = some pairs → mark ∉ name.toList →
        part = Fields.ofPairs (pairs.map (nested "ilike" name)) := by
  obtain ⟨key, hentry, hwhole, hoperator, hfield⟩ := exists_entry hmark hname hv
  refine ⟨_, hentry, names_contribution hwhole hoperator hfield v, fun pairs hpairs hfree => ?_⟩
  have hkey := hoperator.mpr hfree
  rw [contribution_of_paths hpairs hkey, hfield hkey]

/-- The first key that is not well formed is what a filter with admitted entries fails with. -/
theorem exists_first_malformed (hmark : scheme.separator = String.singleton mark) {filter : Fields Value}
    (hvalues : ∀ field ∈ filter, Admitted mark field) (hnames : ¬ ∀ field ∈ filter, Key.WellFormed mark field.1) :
    ∃ before name v after, filter = before ++ (name, v) :: after ∧
      (∀ field ∈ before, Key.WellFormed mark field.1) ∧ ¬ Key.WellFormed mark name ∧
      scheme.parameters filter = .error (.filterKey (.text name) (.text scheme.separator)) := by
  rcases Sequence.forall_or_first (fun field => Key.WellFormed mark field.1) filter with
    hall | ⟨before, ⟨name, v⟩, after, rfl, hbefore, hname⟩
  · exact absurd hall hnames
  · have hadmitted : ∀ field ∈ before, Admitted mark field := fun field hfield =>
      hvalues field (List.mem_append_left _ hfield)
    exact ⟨before, name, v, after, rfl, hbefore, hname, parameters_malformed hmark hbefore hadmitted hname⟩

section

variable {filter : Fields Value} {parameters : Parameters} (hmark : scheme.separator = String.singleton mark)
  (hvalues : ∀ field ∈ filter, Admitted mark field) (hparameters : scheme.parameters filter = .ok parameters)

include hmark hvalues hparameters

theorem part_of_mem : ∀ field ∈ filter, scheme.entry field.1 field.2 = .ok (scheme.part field) ∧
    (scheme.part field).names = contributedNames mark field.1 field.2 ∧
    ∀ pairs, field.2.pairs? = some pairs → mark ∉ field.1.toList →
      scheme.part field = Fields.ofPairs (pairs.map (nested "ilike" field.1)) := by
  intro field hfield
  have hname := wellFormed_of_parameters hmark hparameters field hfield
  obtain ⟨part, hpart, hnames, hpaths⟩ := names_of_entry hmark hname (hvalues field hfield)
  rw [part_of_entry hpart]
  exact ⟨hpart, hnames, hpaths⟩

theorem nodup_part : ∀ field ∈ filter, (scheme.part field).names.Nodup := by
  intro field hfield
  rw [(part_of_mem hmark hvalues hparameters field hfield).2.1]
  exact nodup_contributedNames mark field.1 field.2

theorem names_of_parameters :
    parameters.names = (filter.flatMap fun field => contributedNames mark field.1 field.2).eraseDups := by
  have hparts := part_of_mem hmark hvalues hparameters
  obtain ⟨-, rfl⟩ := parameters_eq_ok_iff.mp hparameters
  rw [Fields.names_ofPairs, Fields.names_flatMap]
  exact congrArg List.eraseDups (List.flatMap_congr fun field hfield => (hparts field hfield).2.1)

theorem get?_of_parameters (name : List Glyph) (v : Value) :
    parameters.get? name = some v ↔
      ∃ before field after part, filter = before ++ field :: after ∧
        scheme.entry field.1 field.2 = .ok part ∧ part.get? name = some v ∧
        ∀ later ∈ after, name ∉ contributedNames mark later.1 later.2 := by
  have hparts := part_of_mem hmark hvalues hparameters
  have hnodup := nodup_part hmark hvalues hparameters
  obtain ⟨-, rfl⟩ := parameters_eq_ok_iff.mp hparameters
  rw [Fields.get?_ofPairs_flatMap_iff]
  constructor
  · rintro ⟨before, field, after, rfl, hget, hafter⟩
    rw [Fields.ofPairs_of_nodup (hnodup field (by simp))] at hget
    refine ⟨before, field, after, _, rfl, (hparts field (by simp)).1, hget, fun later hlater => ?_⟩
    rw [← (hparts later (by simp [hlater])).2.1]
    exact hafter later hlater
  · rintro ⟨before, field, after, part, rfl, hpart, hget, hafter⟩
    rw [← part_of_entry hpart, ← Fields.ofPairs_of_nodup (hnodup field (by simp))] at hget
    refine ⟨before, field, after, rfl, hget, fun later hlater => ?_⟩
    rw [(hparts later (by simp [hlater])).2.1]
    exact hafter later hlater

theorem length_of_parameters (hdisjoint : filter.Pairwise fun field other =>
      (contributedNames mark field.1 field.2).Disjoint (contributedNames mark other.1 other.2)) :
    parameters.length = (filter.map fun field => (contributedNames mark field.1 field.2).length).sum := by
  have hparts := part_of_mem hmark hvalues hparameters
  have hnodup := nodup_part hmark hvalues hparameters
  obtain ⟨-, rfl⟩ := parameters_eq_ok_iff.mp hparameters
  have hshared : filter.Pairwise fun field other =>
      (Fields.names (scheme.part field)).Disjoint (Fields.names (scheme.part other)) :=
    hdisjoint.imp_of_mem fun hfield hother h => by rwa [(hparts _ hfield).2.1, (hparts _ hother).2.1]
  rw [Fields.length_ofPairs_flatMap hnodup hshared]
  refine congrArg List.sum (List.map_congr_left fun field hfield => ?_)
  rw [← (hparts field hfield).2.1, Fields.names, List.length_map]

end

/-- A filter with admitted entries is written exactly when its keys are well formed, and the first key that is not is
what it fails with. Each entry contributes its own names, a map one path for each text that its names have, with the
value of the last name of that text. All of these names are bound once, in the order in which they come first, and to
the value of the last entry that contributes them. So nothing gets lost as long as no two entries contribute the same
name and no two names of a map have the same text. -/
theorem filter_joins_contributions (hmark : scheme.separator = String.singleton mark) {filter : Fields Value}
    (hvalues : ∀ field ∈ filter, Admitted mark field) :
    ((∃ parameters, scheme.parameters filter = .ok parameters) ↔ ∀ field ∈ filter, Key.WellFormed mark field.1) ∧
      (¬ (∀ field ∈ filter, Key.WellFormed mark field.1) →
        ∃ before name v after, filter = before ++ (name, v) :: after ∧
          (∀ field ∈ before, Key.WellFormed mark field.1) ∧ ¬ Key.WellFormed mark name ∧
          scheme.parameters filter = .error (.filterKey (.text name) (.text scheme.separator))) ∧
      ∀ parameters, scheme.parameters filter = .ok parameters →
        (∀ field ∈ filter, ∃ part, scheme.entry field.1 field.2 = .ok part ∧
          part.names = contributedNames mark field.1 field.2 ∧ part.names.Nodup ∧
          ∀ pairs, field.2.pairs? = some pairs → mark ∉ field.1.toList →
            part = Fields.ofPairs (pairs.map (nested "ilike" field.1)) ∧
            ((pairs.map fun pair => pair.1.script).Nodup →
              part.names = pairs.map fun pair => nestedName field.1 pair.1)) ∧
        parameters.names = (filter.flatMap fun field => contributedNames mark field.1 field.2).eraseDups ∧
        (∀ name v, parameters.get? name = some v ↔
          ∃ before field after part, filter = before ++ field :: after ∧
            scheme.entry field.1 field.2 = .ok part ∧ part.get? name = some v ∧
            ∀ later ∈ after, name ∉ contributedNames mark later.1 later.2) ∧
        (filter.Pairwise (fun field other =>
            (contributedNames mark field.1 field.2).Disjoint (contributedNames mark other.1 other.2)) →
          parameters.length = (filter.map fun field => (contributedNames mark field.1 field.2).length).sum) := by
  refine ⟨exists_parameters_iff hmark hvalues, exists_first_malformed hmark hvalues, fun parameters hparameters => ?_⟩
  refine ⟨fun field hfield => ?_, names_of_parameters hmark hvalues hparameters,
    get?_of_parameters hmark hvalues hparameters, length_of_parameters hmark hvalues hparameters⟩
  obtain ⟨hpart, hnames, hpaths⟩ := part_of_mem hmark hvalues hparameters field hfield
  refine ⟨scheme.part field, hpart, hnames, nodup_part hmark hvalues hparameters field hfield,
    fun pairs hpairs hname => ⟨hpaths pairs hpairs hname, fun htexts => ?_⟩⟩
  rw [hnames, contributedNames_of_nodup hpairs hname htexts]

/-- The conventions of a service that changes none of them. -/
def usualScheme : Scheme := .ofOperator (.operator .eq) defaultSeparator

/-- A filter in which a map and a key with an operator come upon names that are used already. -/
def crowdedFilter : Fields Value :=
  [("a->>x", .int 1), ("b@gte", .int 2), ("a", .map [("x", .text "t"), ("y", .null)]),
    ("c@cs", .map [("y", .bool true)]), ("a->>y", .set [.text "1:2"])]

theorem filter_joins_contributions_crowded :
    usualScheme.separator = String.singleton '@' ∧ (∀ field ∈ crowdedFilter, Admitted '@' field) ∧
      ∃ parameters, usualScheme.parameters crowdedFilter = .ok parameters ∧
        parameters.names = ["a->>x", "b@gte", "a->>y", "c@cs"].map glyphsOf ∧
        parameters.get? (glyphsOf "a->>x") = some (.text "ilike.*t*") ∧
        parameters.get? (glyphsOf "a->>y") = some (.text "cs.{12}") := by
  have hmark : usualScheme.separator = String.singleton '@' := rfl
  have hvalues : ∀ field ∈ crowdedFilter, Admitted '@' field := by
    have hone : withinDigitLimit 1 := withinDigitLimit_of_lt_ten (by decide)
    have htwo : withinDigitLimit 2 := withinDigitLimit_of_lt_ten (by decide)
    simp only [crowdedFilter, List.forall_mem_cons]
    exact ⟨.inl ⟨rfl, hone, by decide⟩, .inl ⟨rfl, htwo, by decide⟩, .inl ⟨rfl, rfl, by decide⟩,
      .inr ⟨rfl, rfl, by decide⟩, .inl ⟨rfl, rfl, by decide⟩, nofun⟩
  have hnames : ∀ field ∈ crowdedFilter, Key.WellFormed '@' field.1 := by
    simp only [crowdedFilter, List.forall_mem_cons]
    refine ⟨.inl (by decide), .inr ⟨['b'], ['g', 't', 'e'], ?_⟩, .inl (by decide), .inr ⟨['c'], ['c', 's'], ?_⟩,
      .inl (by decide), nofun⟩
    all_goals decide
  obtain ⟨hwritten, -, hjoins⟩ := filter_joins_contributions hmark hvalues
  obtain ⟨parameters, hparameters⟩ := hwritten.mpr hnames
  obtain ⟨-, hbound, hget, -⟩ := hjoins parameters hparameters
  refine ⟨hmark, hvalues, parameters, hparameters, hbound.trans (by decide), ?_, ?_⟩
  · rw [hget]
    exact ⟨crowdedFilter.take 2, _, crowdedFilter.drop 3, _, rfl, rfl, rfl, by decide⟩
  · rw [hget]
    exact ⟨crowdedFilter.take 4, _, [], _, rfl, rfl, rfl, nofun⟩

/-- A map with two names of one text, under a key without an operator. -/
def collidingFilter : Fields Value := [("a", .entries [(.int 1, .text "x"), (.text "1", .text "y")])]

/-- Not every name of a map has a parameter of its own, and not only its keys can be wrong with a filter: two names of
one text share a parameter, and a list in which others lie 1200 deep cannot be written at all. -/
theorem nested_names_collide :
    (∀ field ∈ collidingFilter, Plain field.2 ∧ Key.WellFormed '@' field.1) ∧
      usualScheme.parameters collidingFilter = .ok [(glyphsOf "a->>1", .text "ilike.*y*")] ∧
      Key.WellFormed '@' "a" ∧ Data false (Value.nestedLists 1200) ∧
      usualScheme.parameters [("a", Value.nestedLists 1200)] = .error .tooDeep := by
  have hone : withinDigitLimit 1 := withinDigitLimit_of_lt_ten (by decide)
  have hfits : (Value.entries [(.int 1, .text "x"), (.text "1", .text "y")]).fits := by
    simpa [Value.fits, Value.allEntriesFit] using hone
  have hname : Key.WellFormed '@' "a" := .inl (by decide)
  have hkey : Key.parse usualScheme.separator "a" = .ok ⟨"a", "a", none⟩ := rfl
  refine ⟨List.forall_mem_singleton.mpr ⟨⟨rfl, hfits, by decide⟩, hname⟩, ?_, hname, data_nestedLists 1200, ?_⟩
  · apply parameters_of_single
    rw [entry_of_plain hkey ⟨rfl, hfits, by decide⟩]
    rfl
  · exact parameters_of_entry_error (entry_nestedLists hkey (by decide))

end

end TableGateway.Filter
