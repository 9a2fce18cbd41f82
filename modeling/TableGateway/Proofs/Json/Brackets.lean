import TableGateway.Proofs.Json.Spelling

/-!
Texts whose brackets are not nested too deep. Whether they are is told by counting the brackets of a text outside of its
strings, whether or not the text is otherwise a JSON text. A text with few enough brackets open at a time is never given
up as nested too deep, so that it is read exactly as the grammar says.
-/

namespace TableGateway.Json

open TableGateway.Number TableGateway.Text

/-- The quote and the brackets. -/
def structural : List Char := ['"', '[', '\x7b', ']', '\x7d']

/-- No more than `room` brackets are open at a time, brackets inside of strings apart. -/
def shallow : (quoted : Bool) → (room : Nat) → List Glyph → Bool
  | _, _, [] => true
  | true, room, .char '\\' :: _ :: rest => shallow true room rest
  | true, room, .char '"' :: rest => shallow false room rest
  | true, room, _ :: rest => shallow true room rest
  | false, room, .char '"' :: rest => shallow true room rest
  | false, 0, .char '[' :: _ => false
  | false, 0, .char '\x7b' :: _ => false
  | false, room + 1, .char '[' :: rest => shallow false room rest
  | false, room + 1, .char '\x7b' :: rest => shallow false room rest
  | false, room, .char ']' :: rest => shallow false (room + 1) rest
  | false, room, .char '\x7d' :: rest => shallow false (room + 1) rest
  | false, room, _ :: rest => shallow false room rest

section

variable {glyphs rest : List Glyph} {room : Nat}

/-- A character that is no bracket and opens no string. -/
theorem shallow_plain {c : Char} (hc : c ∉ structural) (room : Nat) (rest : List Glyph) :
    shallow false room (.char c :: rest) = shallow false room rest := by
  simp only [structural, List.mem_cons, List.not_mem_nil, or_false, not_or] at hc
  obtain ⟨hquote, hopen, hbrace, hclose, hend⟩ := hc
  cases room <;> simp [shallow, hquote, hopen, hbrace, hclose, hend]

theorem shallow_plain_append {cs : List Char} (hcs : ∀ c ∈ cs, c ∉ structural) (room : Nat)
    (rest : List Glyph) : shallow false room (asGlyphs cs ++ rest) = shallow false room rest := by
  induction cs with
  | nil => rfl
  | cons c cs ih =>
    obtain ⟨hc, hcs⟩ := List.forall_mem_cons.mp hcs
    exact (shallow_plain hc room _).trans (ih hcs)

theorem shallow_close {mark : Char} (hmark : mark = ']' ∨ mark = '\x7d') (room : Nat) (rest : List Glyph) :
    shallow false room (.char mark :: rest) = shallow false (room + 1) rest := by
  rcases hmark with rfl | rfl <;> cases room <;> rfl

/-- Behind a bracket that is opened there is room for one bracket less. -/
theorem shallow_open {mark : Char} (hmark : mark = '[' ∨ mark = '\x7b')
    (hshallow : shallow false room (.char mark :: rest)) : ∃ left, room = left + 1 ∧ shallow false left rest := by
  cases room with
  | zero => rcases hmark with rfl | rfl <;> cases hshallow
  | succ left => rcases hmark with rfl | rfl <;> exact ⟨left, rfl, hshallow⟩

theorem shallow_quote (room : Nat) (rest : List Glyph) :
    shallow false room (.char '"' :: rest) = shallow true room rest := by
  cases room <;> rfl

theorem shallow_of_blanks (hblanks : Blanks glyphs rest) (room : Nat) :
    shallow false room glyphs = shallow false room rest := by
  induction hblanks with
  | none => rfl
  | more hblank _ ih =>
    have hmarks : ∀ c ∈ blanks, c ∉ structural :=
      List.forall_iff_forall_mem.mp (by decide)
    exact (shallow_plain (hmarks _ hblank) room _).trans ih

theorem shallow_of_codeUnit {unit : Nat} (hunit : CodeUnit glyphs unit rest) (room : Nat) :
    shallow true room glyphs = shallow true room rest := by
  have hdigit {c : Char} {n : Nat} (hc : hexValue? c = some n) (rest : List Glyph) :
      shallow true room (.char c :: rest) = shallow true room rest := by
    have hquote : c ≠ '"' := by
      rintro rfl
      cases hc
    have hescape : c ≠ '\\' := by
      rintro rfl
      cases hc
    cases rest <;> simp [shallow, hquote, hescape]
  obtain ⟨ha, hb, hc, hd, rest⟩ := hunit
  rw [hdigit ha, hdigit hb, hdigit hc, hdigit hd]

theorem shallow_of_inside {glyph : Glyph} (hinside : Inside glyphs glyph rest) (room : Nat) :
    shallow true room glyphs = shallow true room rest := by
  cases hinside with
  | plain hquote hescape => cases rest <;> simp [shallow, hquote, hescape]
  | surrogate => cases rest <;> rfl
  | short => rfl
  | unit hunit | high hunit | low hunit => exact shallow_of_codeUnit hunit room
  | pair hunit _ hlow =>
    obtain ⟨digits, rfl, hlow, -⟩ := hlow
    exact (shallow_of_codeUnit hunit room).trans (shallow_of_codeUnit hlow room)

theorem shallow_of_quoted {content : List Glyph} (hquoted : Quoted glyphs content rest) (room : Nat) :
    shallow true room glyphs = shallow false room rest := by
  induction hquoted with
  | close rest => cases rest <;> rfl
  | more hglyph _ ih => exact (shallow_of_inside hglyph room).trans ih

theorem shallow_of_name {name behind colon start : List Glyph} (hname : Quoted glyphs name behind)
    (hcolon : Blanks behind (.char ':' :: colon)) (hstart : Blanks colon start) (room : Nat) :
    shallow false room (.char '"' :: glyphs) = shallow false room start := by
  rw [shallow_quote, shallow_of_quoted hname, shallow_of_blanks hcolon, shallow_plain (by decide),
    shallow_of_blanks hstart]

theorem shallow_of_comma {more next : List Glyph} (hcomma : Blanks glyphs (.char ',' :: more))
    (hblanks : Blanks more next) (room : Nat) : shallow false room glyphs = shallow false room next := by
  rw [shallow_of_blanks hcomma, shallow_plain (by decide), shallow_of_blanks hblanks]

theorem plain_of_isDigit {c : Char} (hc : c.isDigit) : c ∉ structural := by
  intro hmem
  have hmarks : ∀ c ∈ structural, c.isDigit = false :=
    List.forall_iff_forall_mem.mp (by decide)
  simp [hmarks c hmem] at hc

theorem plain_of_parts (negative : Bool) {whole fraction exponent : List Char} {places : Option (List Char)}
    {power : Option Int} (hwhole : Whole whole) (hfraction : Fraction fraction places)
    (hexponent : Exponent exponent power) :
    ∀ c ∈ signText negative ++ (whole ++ (fraction ++ exponent)), c ∉ structural := by
  intro c hc
  simp only [List.mem_append] at hc
  rcases hc with hsign | hc | hc | hc
  · cases negative with
    | false => cases hsign
    | true =>
      cases List.mem_singleton.mp hsign
      decide
  · rcases hwhole with rfl | ⟨⟨-, hdigits⟩, -⟩
    · cases List.mem_singleton.mp hc
      decide
    · exact plain_of_isDigit (hdigits c hc)
  · cases hfraction with
    | none => cases hc
    | some hplaces =>
      rcases List.mem_cons.mp hc with rfl | hc
      · decide
      · exact plain_of_isDigit (hplaces.2 c hc)
  · cases hexponent with
    | none => cases hc
    | some hletter hsign hdigits =>
      rcases List.mem_cons.mp hc with rfl | hc
      · rcases hletter with rfl | rfl <;> decide
      rcases List.mem_append.mp hc with hc | hc
      · cases hsign with
        | none => cases hc
        | plus | minus =>
          cases List.mem_singleton.mp hc
          decide
      · exact plain_of_isDigit (hdigits.2 c hc)

theorem plain_of_numeral {cs : List Char} {v : Value} (hnumeral : Numeral cs v) : ∀ c ∈ cs, c ∉ structural := by
  cases hnumeral with
  | integer negative hwhole => simpa using plain_of_parts negative hwhole .none .none
  | double negative hwhole hfraction hexponent => exact plain_of_parts negative hwhole hfraction hexponent

/-- The room behind a phrase. Items and members take the bracket that closes them along. -/
def Phrase.roomAfter : Phrase → Nat → Nat
  | .value _, room => room
  | .items _, room => room + 1
  | .members _, room => room + 1

/-- The brackets of a phrase are closed again. -/
theorem shallow_of_spells {phrase : Phrase} (hspells : Spells glyphs phrase rest)
    (hshallow : shallow false room glyphs) : shallow false (phrase.roomAfter room) rest := by
  induction hspells generalizing room with
  | word hword rest =>
    have hwords : ∀ word ∈ words, ∀ c ∈ word.1.toList, c ∉ structural := by
      simp [words, structural]
    rwa [glyphsOf, shallow_plain_append (hwords _ hword)] at hshallow
  | number hnumeral rest => rwa [shallow_plain_append (plain_of_numeral hnumeral)] at hshallow
  | string hcontent =>
    change shallow true room _ at hshallow
    rwa [shallow_of_quoted hcontent] at hshallow
  | emptyArray hclose | emptyObject hclose =>
    obtain ⟨left, rfl, hinner⟩ := shallow_open (by simp) hshallow
    rwa [shallow_of_blanks hclose, shallow_close (by simp)] at hinner
  | array hblanks _ ih | object hblanks _ ih =>
    obtain ⟨left, rfl, hinner⟩ := shallow_open (by simp) hshallow
    rw [shallow_of_blanks hblanks] at hinner
    exact ih hinner
  | lastItem _ hclose ih =>
    have hafter := ih hshallow
    rwa [Phrase.roomAfter, shallow_of_blanks hclose, shallow_close (by simp)] at hafter
  | item _ hcomma hblanks _ ihv ihitems =>
    have hafter := ihv hshallow
    rw [Phrase.roomAfter, shallow_of_comma hcomma hblanks] at hafter
    exact ihitems hafter
  | lastMember hname hcolon hstart _ hclose ih =>
    rw [shallow_of_name hname hcolon hstart] at hshallow
    have hafter := ih hshallow
    rwa [Phrase.roomAfter, shallow_of_blanks hclose, shallow_close (by simp)] at hafter
  | member hname hcolon hstart _ hcomma hblanks _ ihv ihmembers =>
    rw [shallow_of_name hname hcolon hstart] at hshallow
    have hafter := ihv hshallow
    rw [Phrase.roomAfter, shallow_of_comma hcomma hblanks] at hafter
    exact ihmembers hafter

end

/-- Whatever the three readers give up at is nested too deep. -/
structure RefusesDeep (fuel : Nat) : Prop where
  value {depth : Nat} {glyphs : List Glyph} (hread : readValue fuel depth glyphs = .error .tooDeep) :
    shallow false depth glyphs = false
  items {depth : Nat} {glyphs : List Glyph} (hread : readItems fuel depth glyphs = .error .tooDeep) :
    shallow false depth glyphs = false
  members {depth : Nat} {glyphs : List Glyph} (hread : readMembers fuel depth glyphs = .error .tooDeep) :
    shallow false depth glyphs = false

section

variable {fuel depth : Nat} {glyphs rest : List Glyph}

theorem deep_of_readValue_succ (ih : RefusesDeep fuel) (hread : readValue (fuel + 1) depth glyphs = .error .tooDeep) :
    shallow false depth glyphs = false := by
  unfold readValue at hread
  split at hread
  · next more =>
    split at hread
    · rfl
    · split at hread
      · cases hread
      · have hdeep := ih.items (Sequence.map_eq_error_iff.mp hread)
        rwa [← shallow_of_blanks (blanks_skipBlanks more)] at hdeep
  · next more =>
    split at hread
    · rfl
    · split at hread
      · cases hread
      · have hdeep := ih.members (Sequence.map_eq_error_iff.mp hread)
        rwa [← shallow_of_blanks (blanks_skipBlanks more)] at hdeep
  · cases hscalar : readScalar glyphs <;> (rw [hscalar] at hread; cases hread)

/-- What is nested too deep behind an item and its comma is so with the item in front of it. -/
theorem deep_behind_comma {v : Value} {after more : List Glyph} (hv : readValue fuel depth glyphs = .ok (v, after))
    (hcomma : skipBlanks after = .char ',' :: more) (hdeep : shallow false depth (skipBlanks more) = false) :
    shallow false depth glyphs = false := by
  have hblanks := blanks_skipBlanks after
  rw [hcomma] at hblanks
  rw [Bool.eq_false_iff]
  intro hshallow
  have hafter := shallow_of_spells ((readsSpelt fuel).value hv).1 hshallow
  rw [Phrase.roomAfter, shallow_of_comma hblanks (blanks_skipBlanks more), hdeep] at hafter
  cases hafter

theorem deep_of_readItems_succ (ih : RefusesDeep fuel) (hread : readItems (fuel + 1) depth glyphs = .error .tooDeep) :
    shallow false depth glyphs = false := by
  unfold readItems at hread
  split at hread
  · next hv =>
    cases hread
    exact ih.value hv
  · next v after hv =>
    split at hread
    · next more hcomma =>
      exact deep_behind_comma hv hcomma (ih.items (Sequence.map_eq_error_iff.mp hread))
    · cases hread
    · cases hread

theorem deep_of_readMembers_succ (ih : RefusesDeep fuel)
    (hread : readMembers (fuel + 1) depth glyphs = .error .tooDeep) : shallow false depth glyphs = false := by
  unfold readMembers at hread
  split at hread
  · cases hread
  · next name start hname =>
    obtain ⟨inner, content, behind, colon, rfl, hquoted, -, hcolon, hstart⟩ := quoted_of_readName hname
    rw [shallow_of_name hquoted hcolon hstart]
    split at hread
    · next hv =>
      cases hread
      exact ih.value hv
    · next v after hv =>
      split at hread
      · next more hcomma =>
        exact deep_behind_comma hv hcomma (ih.members (Sequence.map_eq_error_iff.mp hread))
      · cases hread
      · cases hread

end

theorem refusesDeep (fuel : Nat) : RefusesDeep fuel := by
  induction fuel with
  | zero => exact ⟨nofun, nofun, nofun⟩
  | succ fuel ih => exact ⟨deep_of_readValue_succ ih, deep_of_readItems_succ ih, deep_of_readMembers_succ ih⟩

/-- A text without deep nesting is not given up. -/
theorem read_ne_tooDeep {s : String} (hshallow : shallow false depthLimit (glyphsOf s)) :
    read s ≠ .error .tooDeep := by
  intro hread
  unfold read parse at hread
  split at hread
  · next hfault =>
    cases hread
    have hdeep := (refusesDeep _).value hfault
    rw [← shallow_of_blanks (blanks_skipBlanks _), hshallow] at hdeep
    cases hdeep
  · split at hread <;> cases hread

/-- A text without deep nesting is read as the grammar says. -/
theorem read_eq_ok_iff {s : String} (hshallow : shallow false depthLimit (glyphsOf s)) {v : Value} :
    read s = .ok v ↔ JsonText s v := by
  refine ⟨jsonText_of_read, fun hspelt => ?_⟩
  exact (read_of_jsonText hspelt).resolve_right (read_ne_tooDeep hshallow)

end TableGateway.Json
