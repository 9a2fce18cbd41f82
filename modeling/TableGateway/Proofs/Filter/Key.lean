import TableGateway.Filter.Key

/-!
The grammar of filter keys. With a separator of one character a key is a name in which the mark does not occur,
or two non-empty parts without the mark and the mark between them; every other key is refused as a whole.
-/

namespace TableGateway.Filter.Key

open TableGateway.Text

/-- A field alone, or a field and an operator with the mark between them. -/
def WellFormed (mark : Char) (whole : String) : Prop :=
  mark ∉ whole.toList ∨
    ∃ field operator, whole.toList = field ++ mark :: operator ∧ field ≠ [] ∧ operator ≠ [] ∧
      mark ∉ field ∧ mark ∉ operator

variable {mark : Char} {whole : String}

theorem whole_of_parse {separator : String} {key : Key} (hkey : parse separator whole = .ok key) :
    key.whole = whole := by
  unfold parse at hkey
  split at hkey
  · cases hkey
  · split at hkey
    · cases hkey
      rfl
    · split at hkey
      · cases hkey
      · cases hkey
        rfl

theorem parse_eq (mark : Char) (whole : String) :
    parse (String.singleton mark) whole =
      match cut [mark] whole.toList with
      | none => .ok ⟨whole, whole, none⟩
      | some (field, operator) =>
        if field.isEmpty || operator.isEmpty || (cut [mark] operator).isSome then
          .error (.filterKey (.text whole) (.text (String.singleton mark)))
        else .ok ⟨whole, String.ofList field, some (String.ofList operator)⟩ := by
  have hnonempty : (String.singleton mark).isEmpty = false := by simp
  rw [parse, hnonempty, String.toList_singleton]
  rfl

theorem parse_field (hwhole : mark ∉ whole.toList) :
    parse (String.singleton mark) whole = .ok ⟨whole, whole, none⟩ := by
  rw [parse_eq, (cut_singleton_eq_none_iff mark _).mpr hwhole]

theorem parse_operator {field operator : List Char} (hwhole : whole.toList = field ++ mark :: operator)
    (hfield : field ≠ []) (hoperator : operator ≠ []) (hmark : mark ∉ field) (hsecond : mark ∉ operator) :
    parse (String.singleton mark) whole =
      .ok ⟨whole, String.ofList field, some (String.ofList operator)⟩ := by
  have hcut := (cut_singleton_eq_some_iff mark _ field operator).mpr ⟨hmark, hwhole⟩
  have hrest := (cut_singleton_eq_none_iff mark operator).mpr hsecond
  rw [parse_eq, hcut]
  simp [hfield, hoperator, hrest]

theorem parse_malformed (hwhole : ¬ WellFormed mark whole) :
    parse (String.singleton mark) whole =
      .error (.filterKey (.text whole) (.text (String.singleton mark))) := by
  rw [WellFormed, not_or] at hwhole
  obtain ⟨hmark, hparts⟩ := hwhole
  rw [parse_eq]
  cases hcut : cut [mark] whole.toList with
  | none => exact absurd ((cut_singleton_eq_none_iff mark _).mp hcut) hmark
  | some parts =>
    obtain ⟨field, operator⟩ := parts
    obtain ⟨hfield, heq⟩ := (cut_singleton_eq_some_iff mark _ field operator).mp hcut
    cases hbad : field.isEmpty || operator.isEmpty || (cut [mark] operator).isSome with
    | true => simp only [hbad, if_true]
    | false =>
      simp only [Bool.or_eq_false_iff, List.isEmpty_eq_false_iff, Option.isSome_eq_false_iff,
        Option.isNone_iff_eq_none, cut_singleton_eq_none_iff] at hbad
      obtain ⟨⟨hfield_ne, hoperator_ne⟩, hsecond⟩ := hbad
      exact absurd ⟨field, operator, heq, hfield_ne, hoperator_ne, hfield, hsecond⟩ hparts

/-- A key without the mark names its field, any other one an operator besides. -/
theorem parse_wellFormed (hwhole : WellFormed mark whole) :
    ∃ key, parse (String.singleton mark) whole = .ok key ∧ key.whole = whole ∧
      (key.operator = none ↔ mark ∉ whole.toList) ∧ (key.operator = none → key.field = whole) := by
  rcases hwhole with hmark | ⟨field, operator, heq, hfield, hoperator, hmark, hsecond⟩
  · exact ⟨_, parse_field hmark, rfl, by simp [hmark], fun _ => rfl⟩
  · exact ⟨_, parse_operator heq hfield hoperator hmark hsecond, rfl, by simp [heq], nofun⟩

/-- The mark occurs just once, with text before it and behind it. -/
def StandsInside (mark : Char) (whole : String) : Prop :=
  whole.toList.count mark = 1 ∧ whole.toList.head? ≠ some mark ∧ whole.toList.getLast? ≠ some mark

theorem standsInside_iff :
    StandsInside mark whole ↔
      ∃ field operator, whole.toList = field ++ mark :: operator ∧ field ≠ [] ∧ operator ≠ [] ∧
        mark ∉ field ∧ mark ∉ operator := by
  constructor
  · rintro ⟨hcount, hfirst, hlast⟩
    have hmem : mark ∈ whole.toList := List.count_pos_iff.mp (by omega)
    obtain ⟨field, operator, heq, hfield⟩ := List.eq_append_cons_of_mem hmem
    rw [heq] at hcount hfirst hlast
    refine ⟨field, operator, heq, ?_, ?_, hfield, ?_⟩
    · rintro rfl
      simp at hfirst
    · rintro rfl
      simp at hlast
    · rw [List.count_append, List.count_cons_self, List.count_eq_zero_of_not_mem hfield] at hcount
      exact List.count_eq_zero.mp (by omega)
  · rintro ⟨field, operator, heq, hfield_ne, hoperator_ne, hfield, hoperator⟩
    have hfirst : whole.toList.head? = some (field.head hfield_ne) := by
      simp [heq, List.head?_eq_some_head hfield_ne]
    have hlast : whole.toList.getLast? = some (operator.getLast hoperator_ne) := by
      simp [heq, List.getLast?_cons, List.getLast?_eq_some_getLast hoperator_ne]
    refine ⟨?_, ?_, ?_⟩
    · rw [heq, List.count_append, List.count_cons_self, List.count_eq_zero_of_not_mem hfield,
        List.count_eq_zero_of_not_mem hoperator]
    · rw [hfirst, Ne, Option.some.injEq]
      exact fun hmark => hfield (hmark ▸ List.head_mem hfield_ne)
    · rw [hlast, Ne, Option.some.injEq]
      exact fun hmark => hoperator (hmark ▸ List.getLast_mem hoperator_ne)

/-- A key without the mark is a field. A key with the mark once inside is a field and an operator, the texts before
and behind it, and every such pair of texts is read back from the key that they make. All other keys are refused. -/
theorem parse_grammar (mark : Char) (whole : String) :
    (mark ∉ whole.toList → parse (String.singleton mark) whole = .ok ⟨whole, whole, none⟩) ∧
      (StandsInside mark whole → ∃ field operator : String,
        parse (String.singleton mark) whole = .ok ⟨whole, field, some operator⟩ ∧
          field ++ String.singleton mark ++ operator = whole ∧ mark ∉ field.toList ∧ mark ∉ operator.toList) ∧
      (mark ∈ whole.toList → ¬ StandsInside mark whole →
        parse (String.singleton mark) whole =
          .error (.filterKey (.text whole) (.text (String.singleton mark)))) ∧
      ∀ field operator : String, field ≠ "" → operator ≠ "" → mark ∉ field.toList → mark ∉ operator.toList →
        parse (String.singleton mark) (field ++ String.singleton mark ++ operator) =
          .ok ⟨field ++ String.singleton mark ++ operator, field, some operator⟩ := by
  refine ⟨parse_field, fun hinside => ?_, fun hmem hinside => ?_, ?_⟩
  · obtain ⟨field, operator, heq, hfield_ne, hoperator_ne, hfield, hoperator⟩ := standsInside_iff.mp hinside
    refine ⟨String.ofList field, String.ofList operator,
      parse_operator heq hfield_ne hoperator_ne hfield hoperator, ?_, by simpa using hfield, by simpa using hoperator⟩
    rw [← String.toList_inj]
    simp [heq]
  · apply parse_malformed
    rw [WellFormed, ← standsInside_iff, not_or, Classical.not_not]
    exact ⟨hmem, hinside⟩
  · intro field operator hfield_ne hoperator_ne hfield hoperator
    have heq : (field ++ String.singleton mark ++ operator).toList = field.toList ++ mark :: operator.toList := by simp
    have hparse := parse_operator heq (by simpa using hfield_ne) (by simpa using hoperator_ne) hfield hoperator
    rwa [String.ofList_toList, String.ofList_toList] at hparse

theorem parse_grammar_arrows :
    parse "→" "" = .ok ⟨"", "", none⟩ ∧
      parse "→" "größe→gte" = .ok ⟨"größe→gte", "größe", some "gte"⟩ ∧
      '→' ∈ "a→→b".toList ∧ ¬ StandsInside '→' "a→→b" ∧
      parse "→" "a→→b" = .error (.filterKey (.text "a→→b") (.text "→")) := by
  obtain ⟨hempty, -, -, hread⟩ := parse_grammar '→' ""
  obtain ⟨-, -, hrefused, -⟩ := parse_grammar '→' "a→→b"
  have hmem : '→' ∈ "a→→b".toList := by decide
  have hinside : ¬ StandsInside '→' "a→→b" := by
    rw [StandsInside]
    decide
  exact ⟨hempty (by decide), hread "größe" "gte" (by decide) (by decide) (by decide) (by decide), hmem, hinside,
    hrefused hmem hinside⟩

end TableGateway.Filter.Key
