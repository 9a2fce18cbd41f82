import TableGateway.Proofs.Json.Tokens
import TableGateway.Proofs.Value.Fitting

/-!
The reader of JSON texts and the grammar. What is read is spelt as the grammar says, by induction on the fuel that the
three readers share. What the grammar spells is read, unless arrays and objects are nested too deep, by induction on the
grammar: every bracket and every separator takes a glyph, so that the fuel lasts.
-/

namespace TableGateway.Json

open TableGateway.Number TableGateway.Text

section

variable {glyphs rest : List Glyph}

/-- A glyph that may begin a phrase. -/
def Starts (glyphs : List Glyph) : Prop :=
  ∃ c more, glyphs = .char c :: more ∧ c ∉ enders

theorem starts_of_numeral {cs : List Char} {v : Value} (hnumeral : Numeral cs v) (rest : List Glyph) :
    Starts (asGlyphs cs ++ rest) := by
  obtain ⟨c, more, rfl, hfirst⟩ := numeral_eq_cons hnumeral
  refine ⟨c, asGlyphs more ++ rest, rfl, fun hmem => ?_⟩
  have hmarks : ∀ c ∈ enders, c.isDigit = false ∧ c ≠ '-' :=
    List.forall_iff_forall_mem.mp (by decide)
  obtain ⟨hdigit, hminus⟩ := hmarks c hmem
  rcases hfirst with hc | ⟨rfl, -⟩
  · simp [hdigit] at hc
  · exact hminus rfl

theorem starts_of_spells {phrase : Phrase} (hspells : Spells glyphs phrase rest) : Starts glyphs := by
  induction hspells with
  | word hword rest =>
    have hwords : ∀ word ∈ words, ∃ c more, glyphsOf word.1 = .char c :: more ∧
        c ∉ enders := by
      simp [words, glyphsOf, enders]
    obtain ⟨c, more, hcons, hc⟩ := hwords _ hword
    exact ⟨c, more ++ rest, by rw [hcons, List.cons_append], hc⟩
  | number hnumeral rest => exact starts_of_numeral hnumeral rest
  | string | lastMember | member => exact ⟨'"', _, rfl, by decide⟩
  | emptyArray | array => exact ⟨'[', _, rfl, by decide⟩
  | emptyObject | object => exact ⟨'\x7b', _, rfl, by decide⟩
  | lastItem _ _ ih | item _ _ _ _ ih _ => exact ih

theorem length_of_quoted {content : List Glyph} (hquoted : Quoted glyphs content rest) :
    rest.length < glyphs.length := by
  induction hquoted with
  | close => exact Nat.lt_succ_self _
  | more hglyph _ ih => exact Nat.lt_trans ih (length_of_inside hglyph)

/-- The name of a member takes glyphs, and so does the colon behind it. -/
theorem length_of_name {name behind colon start : List Glyph} (hname : Quoted glyphs name behind)
    (hcolon : Blanks behind (.char ':' :: colon)) (hstart : Blanks colon start) : start.length < glyphs.length := by
  have hquoted := length_of_quoted hname
  have hbehind := length_of_blanks hcolon
  have hbefore := length_of_blanks hstart
  rw [List.length_cons] at hbehind
  omega

/-- The comma behind an item takes a glyph. -/
theorem length_of_comma {more next : List Glyph} (hcomma : Blanks glyphs (.char ',' :: more))
    (hblanks : Blanks more next) : next.length < glyphs.length := by
  have hbefore := length_of_blanks hcomma
  have hafter := length_of_blanks hblanks
  rw [List.length_cons] at hbefore
  omega

theorem length_of_spells {phrase : Phrase} (hspells : Spells glyphs phrase rest) : rest.length < glyphs.length := by
  induction hspells with
  | word hword rest =>
    have hwords : ∀ word ∈ words, 0 < (glyphsOf word.1).length := by decide
    have hpos := hwords _ hword
    rw [List.length_append]
    omega
  | number hnumeral rest =>
    obtain ⟨c, more, rfl, -⟩ := numeral_eq_cons hnumeral
    simp only [List.map_cons, List.cons_append, List.length_cons, List.length_append]
    omega
  | string hcontent =>
    have hlength := length_of_quoted hcontent
    rw [List.length_cons]
    omega
  | emptyArray hclose | emptyObject hclose =>
    have hlength := length_of_blanks hclose
    rw [List.length_cons] at hlength ⊢
    omega
  | array hblanks _ ih | object hblanks _ ih =>
    have hlength := length_of_blanks hblanks
    rw [List.length_cons]
    omega
  | lastItem _ hclose ih =>
    have hlength := length_of_blanks hclose
    rw [List.length_cons] at hlength
    omega
  | item _ hcomma hblanks _ ihv ihitems =>
    have hnext := length_of_comma hcomma hblanks
    omega
  | lastMember hname hcolon hstart _ hclose ih =>
    have hlength := length_of_name hname hcolon hstart
    have hafter := length_of_blanks hclose
    rw [List.length_cons] at hafter ⊢
    omega
  | member hname hcolon hstart _ hcomma hblanks _ ihv ihmembers =>
    have hlength := length_of_name hname hcolon hstart
    have hnext := length_of_comma hcomma hblanks
    rw [List.length_cons]
    omega

theorem length_glyphsOf (s : String) : (glyphsOf s).length = s.length := by
  rw [glyphsOf, List.length_map, String.length_toList]

theorem spells_of_readWord {v : Value} (hread : readWord glyphs = some (v, rest)) : Spells glyphs (.value v) rest := by
  obtain ⟨word, hmem, hword⟩ := List.exists_of_findSome?_eq_some hread
  split at hword
  · next hprefix =>
    cases hword
    have hlength : (glyphsOf word.1).length = word.1.length := length_glyphsOf word.1
    have hglyphs := List.prefix_iff_eq_append.mp (List.isPrefixOf_iff_prefix.mp hprefix)
    rw [hlength] at hglyphs
    have hspells := Spells.word hmem (glyphs.drop word.1.length)
    rwa [hglyphs] at hspells
  · cases hword

theorem spells_of_readScalar {v : Value} (hread : readScalar glyphs = some (v, rest)) :
    Spells glyphs (.value v) rest := by
  unfold readScalar at hread
  split at hread
  · obtain ⟨content, hquoted, rfl⟩ := readString_eq_some_iff.mp hread
    exact .string hquoted
  · rcases Option.or_eq_some_iff.mp hread with hword | ⟨-, hnumber⟩
    · exact spells_of_readWord hword
    · obtain ⟨cs, rfl, hnumeral⟩ := numeral_of_readNumber hnumber
      exact .number hnumeral rest

theorem readWord_of_word {word : String × Value} (hword : word ∈ words) (rest : List Glyph) :
    readWord (glyphsOf word.1 ++ rest) = some (word.2, rest) := by
  simp only [words, List.mem_cons, List.not_mem_nil, or_false] at hword
  rcases hword with rfl | rfl | rfl | rfl | rfl | rfl <;> (simp [readWord, words, glyphsOf]; rfl)

theorem readWord_of_numeral {cs : List Char} {v : Value} (hnumeral : Numeral cs v) (rest : List Glyph) :
    readWord (asGlyphs cs ++ rest) = none := by
  obtain ⟨c, more, rfl, hc | ⟨rfl, d, others, rfl, hd⟩⟩ := numeral_eq_cons hnumeral
  · have hne (d : Char) (hd : d.isDigit = false) : d ≠ c := (ne_of_isDigit hc hd).symm
    simp [readWord, words, glyphsOf, hne]
  · have hne : 'I' ≠ d := (ne_of_isDigit hd (by decide)).symm
    simp [readWord, words, glyphsOf, hne]

end

theorem nesting_ofGlyphs (glyphs : List Glyph) : (Value.ofGlyphs glyphs).nesting = 0 := by
  unfold Value.ofGlyphs
  cases textOf? glyphs <;> rfl

theorem nesting_of_readScalar {glyphs rest : List Glyph} {v : Value} (hread : readScalar glyphs = some (v, rest)) :
    v.nesting = 0 := by
  unfold readScalar at hread
  split at hread
  · obtain ⟨content, -, rfl⟩ := readString_eq_some_iff.mp hread
    exact nesting_ofGlyphs content
  · rcases Option.or_eq_some_iff.mp hread with hword | ⟨-, hnumber⟩
    · obtain ⟨word, hmem, hfound⟩ := List.exists_of_findSome?_eq_some hword
      split at hfound
      · cases hfound
        have hwords : ∀ word ∈ words, word.2.nesting = 0 := by decide
        exact hwords word hmem
      · cases hfound
    · obtain ⟨cs, -, hnumeral⟩ := numeral_of_readNumber hnumber
      cases hnumeral <;> rfl

/-- There is room for what is spelt. -/
def Phrase.Within (depth : Nat) : Phrase → Prop
  | .value v => v.nesting ≤ depth
  | .items values => ∀ v ∈ values, v.nesting ≤ depth
  | .members pairs => ∀ pair ∈ pairs, pair.1.nesting ≤ depth ∧ pair.2.nesting ≤ depth

/-- Whatever the three readers return with the given fuel is spelt, and there was room for it. -/
structure ReadsSpelt (fuel : Nat) : Prop where
  value {depth : Nat} {glyphs rest : List Glyph} {v : Value} (hread : readValue fuel depth glyphs = .ok (v, rest)) :
    Spells glyphs (.value v) rest ∧ Phrase.Within depth (.value v)
  items {depth : Nat} {glyphs rest : List Glyph} {values : List Value}
    (hread : readItems fuel depth glyphs = .ok (values, rest)) :
    Spells glyphs (.items values) rest ∧ Phrase.Within depth (.items values)
  members {depth : Nat} {glyphs rest : List Glyph} {pairs : List (Value × Value)}
    (hread : readMembers fuel depth glyphs = .ok (pairs, rest)) :
    Spells glyphs (.members pairs) rest ∧ Phrase.Within depth (.members pairs)

section

variable {fuel depth : Nat} {glyphs rest : List Glyph}

theorem spells_of_readValue_succ (ih : ReadsSpelt fuel) {v : Value}
    (hread : readValue (fuel + 1) depth glyphs = .ok (v, rest)) :
    Spells glyphs (.value v) rest ∧ Phrase.Within depth (.value v) := by
  unfold readValue at hread
  split at hread
  · next more =>
    split at hread
    · cases hread
    · have hblanks := blanks_skipBlanks more
      split at hread
      · next hclose =>
        cases hread
        rw [hclose] at hblanks
        exact ⟨.emptyArray hblanks, Nat.le_add_left 1 _⟩
      · obtain ⟨read, hitems, heq⟩ := Sequence.map_eq_ok_iff.mp hread
        cases heq
        obtain ⟨hspells, hwithin⟩ := ih.items hitems
        exact ⟨.array hblanks hspells, Nat.succ_le_succ ((Value.itemsNesting_le_iff _ _).mpr hwithin)⟩
  · next more =>
    split at hread
    · cases hread
    · have hblanks := blanks_skipBlanks more
      split at hread
      · next hclose =>
        cases hread
        rw [hclose] at hblanks
        exact ⟨.emptyObject hblanks, Nat.le_add_left 1 _⟩
      · obtain ⟨read, hmembers, heq⟩ := Sequence.map_eq_ok_iff.mp hread
        cases heq
        obtain ⟨hspells, hwithin⟩ := ih.members hmembers
        exact ⟨.object hblanks hspells, Value.nesting_ofPairs hwithin⟩
  · cases hscalar : readScalar glyphs with
    | none =>
      rw [hscalar] at hread
      cases hread
    | some read =>
      rw [hscalar] at hread
      cases hread
      refine ⟨spells_of_readScalar hscalar, ?_⟩
      rw [Phrase.Within, nesting_of_readScalar hscalar]
      exact Nat.zero_le depth

theorem spells_of_readItems_succ (ih : ReadsSpelt fuel) {values : List Value}
    (hread : readItems (fuel + 1) depth glyphs = .ok (values, rest)) :
    Spells glyphs (.items values) rest ∧ Phrase.Within depth (.items values) := by
  unfold readItems at hread
  split at hread
  · cases hread
  · next v after hv =>
    obtain ⟨hv_spells, hv_within⟩ := ih.value hv
    have hblanks := blanks_skipBlanks after
    split at hread
    · next more hcomma =>
      obtain ⟨read, hitems, heq⟩ := Sequence.map_eq_ok_iff.mp hread
      cases heq
      rw [hcomma] at hblanks
      obtain ⟨hspells, hwithin⟩ := ih.items hitems
      exact ⟨.item hv_spells hblanks (blanks_skipBlanks more) hspells, List.forall_mem_cons.mpr ⟨hv_within, hwithin⟩⟩
    · next hclose =>
      cases hread
      rw [hclose] at hblanks
      exact ⟨.lastItem hv_spells hblanks, List.forall_mem_singleton.mpr hv_within⟩
    · cases hread

theorem quoted_of_readName {name : Value} (hread : readName glyphs = some (name, rest)) :
    ∃ inner content behind colon, glyphs = .char '"' :: inner ∧ Quoted inner content behind ∧
      name = .ofGlyphs content ∧ Blanks behind (.char ':' :: colon) ∧ Blanks colon rest := by
  unfold readName at hread
  split at hread
  · next inner =>
    split at hread
    · cases hread
    · next behind hname =>
      obtain ⟨content, hquoted, rfl⟩ := readString_eq_some_iff.mp hname
      have hblanks := blanks_skipBlanks behind
      split at hread
      · next colon hcolon =>
        cases hread
        rw [hcolon] at hblanks
        exact ⟨inner, content, behind, colon, rfl, hquoted, rfl, hblanks, blanks_skipBlanks colon⟩
      · cases hread
  · cases hread

theorem spells_of_readMembers_succ (ih : ReadsSpelt fuel) {pairs : List (Value × Value)}
    (hread : readMembers (fuel + 1) depth glyphs = .ok (pairs, rest)) :
    Spells glyphs (.members pairs) rest ∧ Phrase.Within depth (.members pairs) := by
  unfold readMembers at hread
  split at hread
  · cases hread
  · next name start hname =>
    obtain ⟨inner, content, behind, colon, rfl, hquoted, rfl, hcolon, hstart⟩ := quoted_of_readName hname
    split at hread
    · cases hread
    · next v after hv =>
      obtain ⟨hv_spells, hv_within⟩ := ih.value hv
      have hwithin_pair : (Value.ofGlyphs content).nesting ≤ depth ∧ v.nesting ≤ depth := by
        rw [nesting_ofGlyphs]
        exact ⟨Nat.zero_le depth, hv_within⟩
      have hblanks := blanks_skipBlanks after
      split at hread
      · next more hcomma =>
        obtain ⟨read, hmembers, heq⟩ := Sequence.map_eq_ok_iff.mp hread
        cases heq
        rw [hcomma] at hblanks
        obtain ⟨hspells, hwithin⟩ := ih.members hmembers
        exact ⟨.member hquoted hcolon hstart hv_spells hblanks (blanks_skipBlanks more) hspells,
          List.forall_mem_cons.mpr ⟨hwithin_pair, hwithin⟩⟩
      · next hclose =>
        cases hread
        rw [hclose] at hblanks
        exact ⟨.lastMember hquoted hcolon hstart hv_spells hblanks, List.forall_mem_singleton.mpr hwithin_pair⟩
      · cases hread

end

theorem readsSpelt (fuel : Nat) : ReadsSpelt fuel := by
  induction fuel with
  | zero => exact ⟨nofun, nofun, nofun⟩
  | succ fuel ih =>
    exact ⟨spells_of_readValue_succ ih, spells_of_readItems_succ ih, spells_of_readMembers_succ ih⟩

/-- What is read from a text is what the text spells, and there was room for it. -/
theorem spells_of_parse {depth : Nat} {glyphs : List Glyph} {v : Value} (hread : parse depth glyphs = .ok v) :
    (∃ first last, Blanks glyphs first ∧ Spells first (.value v) last ∧ Blanks last []) ∧ v.nesting ≤ depth := by
  unfold parse at hread
  split at hread
  · cases hread
  · next w last hw =>
    split at hread
    · next hlast =>
      cases hread
      have hblanks := blanks_skipBlanks last
      rw [List.isEmpty_iff.mp hlast] at hblanks
      obtain ⟨hspells, hwithin⟩ := (readsSpelt _).value hw
      exact ⟨⟨_, last, blanks_skipBlanks _, hspells, hblanks⟩, hwithin⟩
    · cases hread

theorem jsonText_of_read {s : String} {v : Value} (hread : read s = .ok v) : JsonText s v := (spells_of_parse hread).1

/-- The reader found what is there, or gave up at a bracket that opens one level too many. -/
def Found {α : Type} (read : Except Fault α) (a : α) : Prop := read = .ok a ∨ read = .error .tooDeep

theorem Found.map {α β : Type} {read : Except Fault α} {a : α} (hfound : Found read a) (f : α → β) :
    Found (read.map f) (f a) := by
  rcases hfound with rfl | rfl
  · exact .inl rfl
  · exact .inr rfl

section

variable {fuel depth : Nat} {glyphs rest : List Glyph}

theorem ends_of_mark {mark : Char} (hmark : mark ∈ [',', ']', '\x7d']) (rest : List Glyph) :
    Ends (.char mark :: rest) := by
  have hmarks : ∀ mark ∈ [',', ']', '\x7d'], mark ∈ enders :=
    List.forall_iff_forall_mem.mp (by decide)
  rintro glyph ⟨⟩
  exact ⟨mark, hmarks mark hmark, rfl⟩

theorem ends_of_blanks (hblanks : Blanks glyphs rest) (hrest : Ends rest) : Ends glyphs := by
  cases hblanks with
  | none => exact hrest
  | more hblank =>
    have hmarks : ∀ blank ∈ blanks, blank ∈ enders :=
      List.forall_iff_forall_mem.mp (by decide)
    rintro glyph ⟨⟩
    exact ⟨_, hmarks _ hblank, rfl⟩

theorem skipBlanks_of_mark {mark : Char} (hmark : mark ∈ [',', ']', '\x7d', ':'])
    (hblanks : Blanks glyphs (.char mark :: rest)) : skipBlanks glyphs = .char mark :: rest := by
  apply skipBlanks_of_blanks hblanks
  rintro glyph ⟨⟩
  have hmarks : ∀ mark ∈ [',', ']', '\x7d', ':'], isBlank (.char mark) = false :=
    List.forall_iff_forall_mem.mp (by decide)
  exact hmarks mark hmark

theorem skipBlanks_of_starts {first : List Glyph} (hblanks : Blanks glyphs first) (hstarts : Starts first) :
    skipBlanks glyphs = first := by
  obtain ⟨c, more, rfl, hc⟩ := hstarts
  apply skipBlanks_of_blanks hblanks
  rintro glyph ⟨⟩
  simp only [enders, List.mem_cons, not_or] at hc
  simp [isBlank, hc]

/-- What begins with neither a quote nor a bracket is read as a word or a number. -/
theorem readValue_of_plain {c : Char} (hc : c ∉ ['"', '[', '\x7b']) (more : List Glyph) :
    readValue (fuel + 1) depth (.char c :: more) =
      orMalformed ((readWord (.char c :: more)).or (readNumber (.char c :: more))) := by
  simp only [List.mem_cons, List.not_mem_nil, or_false, not_or] at hc
  simp [readValue, readScalar, hc]

theorem readValue_array {first : List Glyph} (hskip : skipBlanks glyphs = first) (hstarts : Starts first) :
    readValue (fuel + 1) (depth + 1) (.char '[' :: glyphs) =
      (readItems fuel depth first).map fun read => (.list read.1, read.2) := by
  obtain ⟨c, more, rfl, hc⟩ := hstarts
  have hclose : c ≠ ']' := by
    rintro rfl
    exact absurd (by decide) hc
  simp [readValue, hskip, hclose]

theorem readValue_object {first : List Glyph} (hskip : skipBlanks glyphs = first) (hstarts : Starts first) :
    readValue (fuel + 1) (depth + 1) (.char '\x7b' :: glyphs) =
      (readMembers fuel depth first).map fun read => (.ofPairs read.1, read.2) := by
  obtain ⟨c, more, rfl, hc⟩ := hstarts
  have hclose : c ≠ '\x7d' := by
    rintro rfl
    exact absurd (by decide) hc
  simp [readValue, hskip, hclose]

theorem found_lastItem {after : List Glyph} {v : Value} (hv : Found (readValue fuel depth glyphs) (v, after))
    (hclose : skipBlanks after = .char ']' :: rest) : Found (readItems (fuel + 1) depth glyphs) ([v], rest) := by
  rcases hv with hv | hv <;> simp [Found, readItems, hv, hclose]

theorem found_item {after more next : List Glyph} {v : Value} {values : List Value}
    (hv : Found (readValue fuel depth glyphs) (v, after)) (hcomma : skipBlanks after = .char ',' :: more)
    (hnext : skipBlanks more = next) (hitems : Found (readItems fuel depth next) (values, rest)) :
    Found (readItems (fuel + 1) depth glyphs) (v :: values, rest) := by
  rcases hv with hv | hv
  · rw [readItems, hv]
    simp only [hcomma, hnext]
    exact hitems.map fun read => (v :: read.1, read.2)
  · simp [Found, readItems, hv]

theorem found_array {first : List Glyph} {values : List Value} (hskip : skipBlanks glyphs = first)
    (hstarts : Starts first) (hitems : ∀ depth, Found (readItems fuel depth first) (values, rest)) :
    Found (readValue (fuel + 1) depth (.char '[' :: glyphs)) (.list values, rest) := by
  cases depth with
  | zero => exact .inr rfl
  | succ depth =>
    rw [readValue_array hskip hstarts]
    exact (hitems depth).map fun read => (Value.list read.1, read.2)

theorem found_object {first : List Glyph} {pairs : List (Value × Value)} (hskip : skipBlanks glyphs = first)
    (hstarts : Starts first) (hmembers : ∀ depth, Found (readMembers fuel depth first) (pairs, rest)) :
    Found (readValue (fuel + 1) depth (.char '\x7b' :: glyphs)) (.ofPairs pairs, rest) := by
  cases depth with
  | zero => exact .inr rfl
  | succ depth =>
    rw [readValue_object hskip hstarts]
    exact (hmembers depth).map fun read => (Value.ofPairs read.1, read.2)

theorem readValue_of_word {word : String × Value} (hword : word ∈ words) (rest : List Glyph) :
    readValue (fuel + 1) depth (glyphsOf word.1 ++ rest) = .ok (word.2, rest) := by
  have hwords : ∀ word ∈ words, ∃ c more, glyphsOf word.1 = .char c :: more ∧ c ∉ ['"', '[', '\x7b'] := by
    simp [words, glyphsOf]
  obtain ⟨c, more, hcons, hc⟩ := hwords word hword
  have hread := readWord_of_word hword rest
  rw [hcons, List.cons_append] at hread ⊢
  rw [readValue_of_plain hc, hread]
  rfl

theorem readValue_of_numeral {cs : List Char} {v : Value} (hnumeral : Numeral cs v) (hrest : Ends rest) :
    readValue (fuel + 1) depth (asGlyphs cs ++ rest) = .ok (v, rest) := by
  have hword := readWord_of_numeral hnumeral rest
  have hread := readNumber_of_numeral hnumeral hrest
  obtain ⟨c, more, rfl, hfirst⟩ := numeral_eq_cons hnumeral
  have hc : c ∉ ['"', '[', '\x7b'] := by
    intro hmem
    have hmarks : ∀ c ∈ ['"', '[', '\x7b'], c.isDigit = false ∧ c ≠ '-' :=
      List.forall_iff_forall_mem.mp (by decide)
    obtain ⟨hdigit, hminus⟩ := hmarks c hmem
    rcases hfirst with hc | ⟨hc, -⟩
    · simp [hdigit] at hc
    · exact hminus hc
  simp only [List.map_cons, List.cons_append] at hword hread ⊢
  rw [readValue_of_plain hc, hword, hread]
  rfl

theorem readValue_of_quoted {content : List Glyph} (hcontent : Quoted glyphs content rest) :
    readValue (fuel + 1) depth (.char '"' :: glyphs) = .ok (.ofGlyphs content, rest) := by
  have hread := readString_eq_some_iff.mpr ⟨content, hcontent, rfl⟩
  simp [readValue, readScalar, hread, orMalformed]

theorem found_emptyArray (hclose : skipBlanks glyphs = .char ']' :: rest) :
    Found (readValue (fuel + 1) depth (.char '[' :: glyphs)) (.list [], rest) := by
  cases depth <;> simp [Found, readValue, hclose]

theorem found_emptyObject (hclose : skipBlanks glyphs = .char '\x7d' :: rest) :
    Found (readValue (fuel + 1) depth (.char '\x7b' :: glyphs)) (.map [], rest) := by
  cases depth <;> simp [Found, readValue, hclose]

theorem readName_of_quoted {content behind colon start : List Glyph} (hname : Quoted glyphs content behind)
    (hcolon : Blanks behind (.char ':' :: colon)) (hstart : Blanks colon start) (hstarts : Starts start) :
    readName (.char '"' :: glyphs) = some (.ofGlyphs content, start) := by
  rw [readName, readString_eq_some_iff.mpr ⟨content, hname, rfl⟩]
  simp only [skipBlanks_of_mark (by decide) hcolon, skipBlanks_of_starts hstart hstarts]

theorem found_lastMember {start after : List Glyph} {name v : Value} (hname : readName glyphs = some (name, start))
    (hv : Found (readValue fuel depth start) (v, after)) (hclose : skipBlanks after = .char '\x7d' :: rest) :
    Found (readMembers (fuel + 1) depth glyphs) ([(name, v)], rest) := by
  rcases hv with hv | hv <;> simp [Found, readMembers, hname, hv, hclose]

theorem found_member {start after more next : List Glyph} {name v : Value} {pairs : List (Value × Value)}
    (hname : readName glyphs = some (name, start)) (hv : Found (readValue fuel depth start) (v, after))
    (hcomma : skipBlanks after = .char ',' :: more) (hnext : skipBlanks more = next)
    (hmembers : Found (readMembers fuel depth next) (pairs, rest)) :
    Found (readMembers (fuel + 1) depth glyphs) ((name, v) :: pairs, rest) := by
  rcases hv with hv | hv
  · rw [readMembers, hname]
    simp only [hv, hcomma, hnext]
    exact hmembers.map fun read => ((name, v) :: read.1, read.2)
  · rw [readMembers, hname]
    simp only [hv]
    exact .inr rfl

end

/-- Given enough fuel, the phrase is found wherever it stands. A value must be followed by something that ends it. -/
def IsFound : List Glyph → Phrase → List Glyph → Prop
  | glyphs, .value v, rest => ∀ fuel depth, Ends rest → 2 * glyphs.length + 1 ≤ fuel →
      Found (readValue fuel depth glyphs) (v, rest)
  | glyphs, .items values, rest => ∀ fuel depth, 2 * glyphs.length + 2 ≤ fuel →
      Found (readItems fuel depth glyphs) (values, rest)
  | glyphs, .members pairs, rest => ∀ fuel depth, 2 * glyphs.length + 2 ≤ fuel →
      Found (readMembers fuel depth glyphs) (pairs, rest)

theorem isFound_of_spells {glyphs rest : List Glyph} {phrase : Phrase} (hspells : Spells glyphs phrase rest) :
    IsFound glyphs phrase rest := by
  have hpositive {fuel n : Nat} (hfuel : n + 1 ≤ fuel) : ∃ k, fuel = k + 1 := ⟨fuel - 1, by omega⟩
  induction hspells with
  | word hword rest =>
    intro fuel depth _ hfuel
    obtain ⟨fuel, rfl⟩ := hpositive hfuel
    exact .inl (readValue_of_word hword rest)
  | number hnumeral rest =>
    intro fuel depth hrest hfuel
    obtain ⟨fuel, rfl⟩ := hpositive hfuel
    exact .inl (readValue_of_numeral hnumeral hrest)
  | string hcontent =>
    intro fuel depth _ hfuel
    obtain ⟨fuel, rfl⟩ := hpositive hfuel
    exact .inl (readValue_of_quoted hcontent)
  | emptyArray hclose =>
    intro fuel depth _ hfuel
    obtain ⟨fuel, rfl⟩ := hpositive hfuel
    exact found_emptyArray (skipBlanks_of_mark (by decide) hclose)
  | array hblanks hitems ih =>
    intro fuel depth _ hfuel
    obtain ⟨fuel, rfl⟩ := hpositive hfuel
    have hlength := length_of_blanks hblanks
    rw [List.length_cons] at hfuel
    have hstarts := starts_of_spells hitems
    exact found_array (skipBlanks_of_starts hblanks hstarts) hstarts fun depth => ih fuel depth (by omega)
  | lastItem hv hclose ih =>
    intro fuel depth hfuel
    obtain ⟨fuel, rfl⟩ := hpositive hfuel
    have hfound := ih fuel depth (ends_of_blanks hclose (ends_of_mark (by decide) _)) (by omega)
    exact found_lastItem hfound (skipBlanks_of_mark (by decide) hclose)
  | item hv hcomma hblanks hitems ihv ihitems =>
    intro fuel depth hfuel
    obtain ⟨fuel, rfl⟩ := hpositive hfuel
    have hfound := ihv fuel depth (ends_of_blanks hcomma (ends_of_mark (by decide) _)) (by omega)
    have hvalue := length_of_spells hv
    have hnext := length_of_comma hcomma hblanks
    exact found_item hfound (skipBlanks_of_mark (by decide) hcomma)
      (skipBlanks_of_starts hblanks (starts_of_spells hitems)) (ihitems fuel depth (by omega))
  | emptyObject hclose =>
    intro fuel depth _ hfuel
    obtain ⟨fuel, rfl⟩ := hpositive hfuel
    exact found_emptyObject (skipBlanks_of_mark (by decide) hclose)
  | object hblanks hmembers ih =>
    intro fuel depth _ hfuel
    obtain ⟨fuel, rfl⟩ := hpositive hfuel
    have hlength := length_of_blanks hblanks
    rw [List.length_cons] at hfuel
    have hstarts := starts_of_spells hmembers
    exact found_object (skipBlanks_of_starts hblanks hstarts) hstarts fun depth => ih fuel depth (by omega)
  | lastMember hname hcolon hstart hv hclose ih =>
    intro fuel depth hfuel
    obtain ⟨fuel, rfl⟩ := hpositive hfuel
    have hread := readName_of_quoted hname hcolon hstart (starts_of_spells hv)
    have hlength := length_of_name hname hcolon hstart
    rw [List.length_cons] at hfuel
    have hfound := ih fuel depth (ends_of_blanks hclose (ends_of_mark (by decide) _)) (by omega)
    exact found_lastMember hread hfound (skipBlanks_of_mark (by decide) hclose)
  | member hname hcolon hstart hv hcomma hblanks hmembers ihv ihmembers =>
    intro fuel depth hfuel
    obtain ⟨fuel, rfl⟩ := hpositive hfuel
    have hread := readName_of_quoted hname hcolon hstart (starts_of_spells hv)
    have hlength := length_of_name hname hcolon hstart
    have hvalue := length_of_spells hv
    have hnext := length_of_comma hcomma hblanks
    rw [List.length_cons] at hfuel
    have hfound := ihv fuel depth (ends_of_blanks hcomma (ends_of_mark (by decide) _)) (by omega)
    exact found_member hread hfound (skipBlanks_of_mark (by decide) hcomma)
      (skipBlanks_of_starts hblanks (starts_of_spells hmembers)) (ihmembers fuel depth (by omega))

/-- What a text spells is read from it, unless arrays and objects are nested too deep. -/
theorem read_of_jsonText {s : String} {v : Value} (hspelt : JsonText s v) : Found (read s) v := by
  obtain ⟨first, last, hblanks, hspells, hlast⟩ := hspelt
  have hskip := skipBlanks_of_starts hblanks (starts_of_spells hspells)
  have hends : Ends last := ends_of_blanks hlast nofun
  have hlength := length_of_blanks hblanks
  have hfound := isFound_of_spells hspells (2 * (glyphsOf s).length + 2) depthLimit hends (by omega)
  have hnothing : skipBlanks last = [] := skipBlanks_of_blanks hlast nofun
  unfold Found at hfound ⊢
  rw [read, parse, hskip]
  rcases hfound with hread | hread <;> simp [hread, hnothing]

end TableGateway.Json
