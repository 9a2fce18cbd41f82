import TableGateway.Proofs.Fields
import TableGateway.Proofs.Json.Data
import TableGateway.Proofs.Json.Scalar
import TableGateway.Proofs.Json.Spelling

/-!
The reader of JSON texts inverts their writer. The text of a value without doubles is read back as that value
when the reader has room for its Value.nesting, and is given up as nested too deep when it has not; nothing else can
happen. Both layouts in use are covered: the separators are a mark followed by blanks.

The statement about one value leaves open what follows it, how much fuel is left and how deep the value
stands. Lists and maps are then one induction over their parts, and the reader of a whole text supplies more
fuel than any text needs.
-/

namespace TableGateway.Json

open TableGateway.Number TableGateway.Text

/-- A mark with blanks behind it. -/
def IsMark (mark : Char) (cs : List Char) : Prop :=
  ∃ blanks : List Char, (∀ c ∈ blanks, isBlank (.char c)) ∧ cs = mark :: blanks

/-- Separators that the reader recognises. -/
structure Layout.Legible (layout : Layout) : Prop where
  comma : IsMark ',' layout.comma
  colon : IsMark ':' layout.colon

theorem spaced_legible : spaced.Legible :=
  ⟨⟨[' '], List.forall_mem_singleton.mpr rfl, rfl⟩, ⟨[' '], List.forall_mem_singleton.mpr rfl, rfl⟩⟩

theorem compact_legible : compact.Legible := ⟨⟨[], by simp, rfl⟩, ⟨[], by simp, rfl⟩⟩

/-- A text that begins with neither a blank nor a closing bracket, as the text of every value does. -/
def Begins (cs : List Char) : Prop :=
  ∃ c rest, cs = c :: rest ∧ isBlank (.char c) = false ∧ c ≠ ']'

theorem skipBlanks_of_begins {cs : List Char} (hcs : Begins cs) (rest : List Glyph) :
    skipBlanks (asGlyphs cs ++ rest) = asGlyphs cs ++ rest := by
  obtain ⟨c, tail, rfl, hblank, -⟩ := hcs
  simp [skipBlanks, hblank]

theorem skipBlanks_append {blanks : List Char} (hblanks : ∀ c ∈ blanks, isBlank (.char c))
    {cs : List Char} (hcs : Begins cs) (rest : List Glyph) :
    skipBlanks (asGlyphs blanks ++ (asGlyphs cs ++ rest)) = asGlyphs cs ++ rest := by
  induction blanks with
  | nil => exact skipBlanks_of_begins hcs rest
  | cons c blanks ih =>
    have hc : isBlank (.char c) = true := hblanks c (by simp)
    have htail := ih fun d hd => hblanks d (by simp [hd])
    simpa [skipBlanks, hc] using htail

theorem begins_quote (s : String) : Begins (quote s) := ⟨'"', _, rfl, by decide, by decide⟩

theorem begins_intDigits (n : Int) : Begins (intDigits n) := by
  obtain ⟨c, cs, hcs, -⟩ := intDigits_eq_cons n
  have hne (d : Char) (hdigit : d.isDigit = false) (hminus : d ≠ '-') : c ≠ d :=
    ne_of_intDigits_eq_cons hcs hdigit hminus
  refine ⟨c, cs, hcs, ?_, hne _ (by decide) (by decide)⟩
  simp [isBlank, hne]

theorem begins_render (layout : Layout) {v : Value} (hv : Data false v) : Begins (render layout v) := by
  cases hv with
  | null => exact ⟨'n', _, rfl, by decide, by decide⟩
  | bool b => cases b <;> exact ⟨_, _, rfl, by decide, by decide⟩
  | int hn => exact begins_intDigits _
  | float x hdoubles => cases hdoubles
  | text s => exact begins_quote s
  | list hitems => exact ⟨'[', _, rfl, by decide, by decide⟩
  | map hnames hfields => exact ⟨'\x7b', _, rfl, by decide, by decide⟩

/-- Whatever follows, the value is read back from its text if there is room for its nesting. -/
def ReadsBack (layout : Layout) (v : Value) : Prop :=
  ∀ (fuel depth : Nat) (rest : List Glyph), EndsValue rest → 2 * (render layout v).length + 1 ≤ fuel →
    readValue fuel depth (asGlyphs (render layout v) ++ rest) =
      if Value.nesting v ≤ depth then .ok (v, rest) else .error .tooDeep

theorem readsBack_int (layout : Layout) {n : Int} (hn : withinDigitLimit n) :
    ReadsBack layout (.int n) := by
  intro fuel depth rest hrest hfuel
  obtain ⟨fuel, rfl⟩ : ∃ k, fuel = k + 1 := ⟨fuel - 1, by omega⟩
  have hflat : Value.nesting (.int n) ≤ depth := Nat.zero_le depth
  rw [if_pos hflat]
  exact readValue_of_numeral (numeral_intDigits hn) (ends_of_endsValue hrest)

theorem readsBack_text (layout : Layout) (s : String) : ReadsBack layout (.text s) := by
  intro fuel depth rest _ hfuel
  obtain ⟨fuel, rfl⟩ : ∃ k, fuel = k + 1 := ⟨fuel - 1, by omega⟩
  have hflat : Value.nesting (.text s) ≤ depth := Nat.zero_le depth
  have hread : readValue (fuel + 1) depth
      (.char '"' :: (asGlyphs (s.toList.flatMap escapeChar) ++ .char '"' :: rest)) = .ok (_, rest) :=
    readValue_of_quoted (quoted_escaped s.toList rest)
  rw [ofGlyphs_asGlyphs] at hread
  rw [if_pos hflat, ← hread]
  simp [render, quote]

theorem renderMoreItems_cons (layout : Layout) (v : Value) (items : List Value) :
    renderMoreItems layout (v :: items) = layout.comma ++ renderItems layout (v :: items) := by
  rw [renderMoreItems, renderItems, List.append_assoc]

theorem begins_renderItems (layout : Layout) {v : Value} (hv : Data false v) (items : List Value) :
    Begins (renderItems layout (v :: items)) := by
  obtain ⟨c, cs, hcs, hblank, hne⟩ := begins_render layout hv
  exact ⟨c, cs ++ renderMoreItems layout items, by rw [renderItems, hcs, List.cons_append], hblank, hne⟩

theorem readItems_last {fuel depth : Nat} {cs rest : List Glyph} {v : Value}
    (hv : readValue fuel depth cs = .ok (v, .char ']' :: rest)) :
    readItems (fuel + 1) depth cs = .ok ([v], rest) := by
  simp [readItems, hv, skipBlanks, isBlank]

theorem readItems_more {fuel depth : Nat} {cs rest : List Glyph} {v : Value}
    (hv : readValue fuel depth cs = .ok (v, .char ',' :: rest)) :
    readItems (fuel + 1) depth cs =
      (readItems fuel depth (skipBlanks rest)).map fun read => (v :: read.1, read.2) := by
  simp [readItems, hv, skipBlanks, isBlank]

theorem readItems_error {fuel depth : Nat} {cs : List Glyph} {fault : Fault}
    (hv : readValue fuel depth cs = .error fault) :
    readItems (fuel + 1) depth cs = .error fault := by
  simp [readItems, hv]

/-- The items of a list are read back if there is room for all of them. -/
theorem readItems_renderItems {layout : Layout} (hlayout : layout.Legible) {v : Value} {items : List Value}
    (hdata : ∀ w ∈ v :: items, Data false w) (hread : ∀ w ∈ v :: items, ReadsBack layout w)
    (fuel depth : Nat) (rest : List Glyph)
    (hfuel : 2 * (renderItems layout (v :: items)).length + 2 ≤ fuel) :
    readItems fuel depth (asGlyphs (renderItems layout (v :: items)) ++ .char ']' :: rest) =
      if Value.itemsNesting (v :: items) ≤ depth then .ok (v :: items, rest) else .error .tooDeep := by
  -- On the items behind the first one: the reader takes an item together with the mark that follows it.
  induction items generalizing v fuel with
  | nil =>
    obtain ⟨fuel, rfl⟩ : ∃ k, fuel = k + 1 := ⟨fuel - 1, by omega⟩
    simp only [renderItems, renderMoreItems, List.append_nil] at hfuel ⊢
    have hv := hread v (by simp) fuel depth (.char ']' :: rest)
      (by rintro glyph ⟨⟩; exact .inr (.inl rfl)) (by omega)
    simp only [Value.itemsNesting, Nat.max_zero]
    by_cases hdepth : Value.nesting v ≤ depth
    · rw [if_pos hdepth] at hv ⊢
      exact readItems_last hv
    · rw [if_neg hdepth] at hv ⊢
      exact readItems_error hv
  | cons w items ih =>
    obtain ⟨fuel, rfl⟩ : ∃ k, fuel = k + 1 := ⟨fuel - 1, by omega⟩
    obtain ⟨blanks, hblanks, hcomma⟩ := hlayout.comma
    have hbegins := begins_renderItems layout (hdata w (by simp)) items
    have hskip := skipBlanks_append hblanks hbegins (.char ']' :: rest)
    rw [renderItems, renderMoreItems_cons, hcomma] at hfuel ⊢
    simp only [List.length_append, List.length_cons] at hfuel
    have htail := ih (v := w) (fun u hu => hdata u (List.mem_cons_of_mem v hu))
      (fun u hu => hread u (List.mem_cons_of_mem v hu)) fuel (by omega)
    have hv := hread v (by simp) fuel depth
      (.char ',' :: (asGlyphs blanks ++ (asGlyphs (renderItems layout (w :: items)) ++ .char ']' :: rest)))
      (by rintro glyph ⟨⟩; exact .inl rfl) (by omega)
    simp only [asGlyphs, List.map_append, List.map_cons, List.cons_append, List.append_assoc]
      at hv htail hskip ⊢
    rw [Value.itemsNesting]
    by_cases hdepth : Value.nesting v ≤ depth
    · rw [if_pos hdepth] at hv
      rw [readItems_more hv, hskip, htail]
      by_cases hdepths : Value.itemsNesting (w :: items) ≤ depth
      · rw [if_pos hdepths, if_pos (Nat.max_le.mpr ⟨hdepth, hdepths⟩)]
        rfl
      · rw [if_neg hdepths, if_neg (by omega)]
        rfl
    · rw [if_neg hdepth] at hv
      rw [readItems_error hv, if_neg (by omega)]

theorem readsBack_list {layout : Layout} (hlayout : layout.Legible) {items : List Value}
    (hdata : ∀ v ∈ items, Data false v) (hread : ∀ v ∈ items, ReadsBack layout v) :
    ReadsBack layout (.list items) := by
  intro fuel depth rest _ hfuel
  obtain ⟨fuel, rfl⟩ : ∃ k, fuel = k + 1 := ⟨fuel - 1, by omega⟩
  cases items with
  | nil => cases depth <;> simp [render, renderItems, readValue, skipBlanks, isBlank, Value.nesting, Value.itemsNesting]
  | cons v items =>
    simp only [render, List.length_append, List.length_cons, List.length_nil] at hfuel
    obtain ⟨c, cs, hcs, hblank, hne⟩ := begins_renderItems layout (hdata v (by simp)) items
    cases depth with
    | zero => simp [render, readValue, Value.nesting]
    | succ depth =>
      have hitems := readItems_renderItems hlayout hdata hread fuel depth rest (by omega)
      simp only [render, Value.nesting, hcs, asGlyphs, List.map_cons, List.map_append, List.cons_append,
        List.map_nil, List.nil_append, List.append_assoc, Nat.add_le_add_iff_right] at hitems ⊢
      by_cases hdepth : Value.itemsNesting (v :: items) ≤ depth
      · simp [readValue, skipBlanks, hblank, hne, hitems, hdepth, Except.map]
      · simp [readValue, skipBlanks, hblank, hne, hitems, hdepth, Except.map]

/-- Pairs of texts and values with distinct names describe the map of them. -/
theorem ofPairs_texts {fields : Fields Value} (hnames : fields.names.Nodup) :
    Value.ofPairs (fields.map fun field => (.text field.1, field.2)) = .map fields := by
  have hpairs : (fields.map fun field => (Value.text field.1, field.2)).mapM Value.field? = some fields := by
    clear hnames
    induction fields with
    | nil => rfl
    | cons field rest ih => simp [Value.field?, ih]
  rw [Value.ofPairs, hpairs]
  simp only [Fields.ofPairs_of_nodup hnames]

/-- A name is read back with the colon behind it. -/
theorem readName_quote {layout : Layout} (hlayout : layout.Legible) (name : String) {cs : List Char}
    (hcs : Begins cs) (rest : List Glyph) :
    readName (asGlyphs (quote name ++ layout.colon) ++ (asGlyphs cs ++ rest)) =
      some (.text name, asGlyphs cs ++ rest) := by
  obtain ⟨blanks, hblanks, hcolon⟩ := hlayout.colon
  have hskip := skipBlanks_append hblanks hcs rest
  have hstring := readString_escaped name (.char ':' :: (asGlyphs blanks ++ (asGlyphs cs ++ rest)))
  have hmark (tail : List Glyph) : skipBlanks (.char ':' :: tail) = .char ':' :: tail := by
    simp [skipBlanks, isBlank]
  simp only [quote, hcolon, asGlyphs, List.map_append, List.map_cons, List.cons_append, List.nil_append,
    List.append_assoc] at hstring hskip ⊢
  simp [readName, hstring, hskip, hmark]

theorem renderMoreFields_cons (layout : Layout) (field : String × Value) (fields : Fields Value) :
    renderMoreFields layout (field :: fields) = layout.comma ++ renderFields layout (field :: fields) := by
  simp [renderMoreFields, renderFields, List.append_assoc]

theorem begins_renderFields (layout : Layout) (field : String × Value) (fields : Fields Value) :
    Begins (renderFields layout (field :: fields)) := by
  obtain ⟨name, v⟩ := field
  simp only [renderFields, quote, List.cons_append]
  exact ⟨'"', _, rfl, by decide, by decide⟩

theorem readMembers_last {fuel depth : Nat} {cs value rest : List Glyph} {name v : Value}
    (hname : readName cs = some (name, value)) (hv : readValue fuel depth value = .ok (v, .char '\x7d' :: rest)) :
    readMembers (fuel + 1) depth cs = .ok ([(name, v)], rest) := by
  simp [readMembers, hname, hv, skipBlanks, isBlank]

theorem readMembers_more {fuel depth : Nat} {cs value rest : List Glyph} {name v : Value}
    (hname : readName cs = some (name, value)) (hv : readValue fuel depth value = .ok (v, .char ',' :: rest)) :
    readMembers (fuel + 1) depth cs =
      (readMembers fuel depth (skipBlanks rest)).map fun read => ((name, v) :: read.1, read.2) := by
  simp [readMembers, hname, hv, skipBlanks, isBlank]

theorem readMembers_error {fuel depth : Nat} {cs value : List Glyph} {name : Value} {fault : Fault}
    (hname : readName cs = some (name, value)) (hv : readValue fuel depth value = .error fault) :
    readMembers (fuel + 1) depth cs = .error fault := by
  simp [readMembers, hname, hv]

/-- A field as the reader hands it on. -/
def asMember (field : String × Value) : Value × Value := (.text field.1, field.2)

/-- The fields of a map are read back if there is room for all of them. -/
theorem readMembers_renderFields {layout : Layout} (hlayout : layout.Legible) {field : String × Value}
    {fields : Fields Value} (hdata : ∀ other ∈ field :: fields, Data false other.2)
    (hread : ∀ other ∈ field :: fields, ReadsBack layout other.2) (fuel depth : Nat) (rest : List Glyph)
    (hfuel : 2 * (renderFields layout (field :: fields)).length + 2 ≤ fuel) :
    readMembers fuel depth (asGlyphs (renderFields layout (field :: fields)) ++ .char '\x7d' :: rest) =
      if Value.fieldsNesting (field :: fields) ≤ depth then .ok ((field :: fields).map asMember, rest)
      else .error .tooDeep := by
  obtain ⟨name, v⟩ := field
  induction fields generalizing name v fuel with
  | nil =>
    obtain ⟨fuel, rfl⟩ : ∃ k, fuel = k + 1 := ⟨fuel - 1, by omega⟩
    have hname := readName_quote hlayout name (begins_render layout (hdata (name, v) (by simp)))
      (.char '\x7d' :: rest)
    simp only [renderFields, renderMoreFields, List.append_nil, List.length_append] at hfuel ⊢
    have hv := hread (name, v) (by simp) fuel depth (.char '\x7d' :: rest)
      (by rintro glyph ⟨⟩; exact .inr (.inr rfl)) (by dsimp only; omega)
    simp only [asGlyphs, List.map_append, List.append_assoc] at hname hv ⊢
    simp only [Value.fieldsNesting, Nat.max_zero]
    by_cases hdepth : Value.nesting v ≤ depth
    · rw [if_pos hdepth] at hv ⊢
      exact readMembers_last hname hv
    · rw [if_neg hdepth] at hv ⊢
      exact readMembers_error hname hv
  | cons other fields ih =>
    obtain ⟨next, w⟩ := other
    obtain ⟨fuel, rfl⟩ : ∃ k, fuel = k + 1 := ⟨fuel - 1, by omega⟩
    obtain ⟨blanks, hblanks, hcomma⟩ := hlayout.comma
    have hskip := skipBlanks_append hblanks (begins_renderFields layout (next, w) fields) (.char '\x7d' :: rest)
    rw [renderFields, renderMoreFields_cons, hcomma] at hfuel ⊢
    simp only [List.length_append, List.length_cons] at hfuel
    have htail := ih fuel next w (fun u hu => hdata u (List.mem_cons_of_mem _ hu))
      (fun u hu => hread u (List.mem_cons_of_mem _ hu)) (by omega)
    let behind : List Glyph := .char ',' ::
      (asGlyphs blanks ++ (asGlyphs (renderFields layout ((next, w) :: fields)) ++ .char '\x7d' :: rest))
    have hname := readName_quote hlayout name (begins_render layout (hdata (name, v) (by simp))) behind
    have hv := hread (name, v) (by simp) fuel depth behind
      (by rintro glyph ⟨⟩; exact .inl rfl) (by dsimp only; omega)
    simp only [behind, asGlyphs, List.map_append, List.map_cons, List.cons_append, List.append_assoc]
      at hname hv htail hskip ⊢
    rw [Value.fieldsNesting]
    by_cases hdepth : Value.nesting v ≤ depth
    · rw [if_pos hdepth] at hv
      rw [readMembers_more hname hv, hskip, htail]
      by_cases hdepths : Value.fieldsNesting ((next, w) :: fields) ≤ depth
      · rw [if_pos hdepths, if_pos (Nat.max_le.mpr ⟨hdepth, hdepths⟩)]
        rfl
      · rw [if_neg hdepths, if_neg (by omega)]
        rfl
    · rw [if_neg hdepth] at hv
      rw [readMembers_error hname hv, if_neg (by omega)]

theorem readsBack_map {layout : Layout} (hlayout : layout.Legible) {fields : Fields Value}
    (hnames : fields.names.Nodup) (hdata : ∀ field ∈ fields, Data false field.2)
    (hread : ∀ field ∈ fields, ReadsBack layout field.2) : ReadsBack layout (.map fields) := by
  intro fuel depth rest _ hfuel
  obtain ⟨fuel, rfl⟩ : ∃ k, fuel = k + 1 := ⟨fuel - 1, by omega⟩
  cases fields with
  | nil =>
    cases depth <;> simp [render, renderFields, readValue, skipBlanks, isBlank, Value.nesting, Value.fieldsNesting]
  | cons field fields =>
    simp only [render, List.length_append, List.length_cons, List.length_nil] at hfuel
    obtain ⟨c, cs, hcs, hblank, -⟩ := begins_renderFields layout field fields
    cases depth with
    | zero => simp [render, readValue, Value.nesting]
    | succ depth =>
      have hmembers := readMembers_renderFields hlayout hdata hread fuel depth rest (by omega)
      have hmap : Value.ofPairs ((field :: fields).map asMember) = .map (field :: fields) :=
        ofPairs_texts hnames
      have hquote : c ≠ '\x7d' := by
        simp only [renderFields, quote, List.cons_append, List.cons.injEq] at hcs
        rw [← hcs.1]
        decide
      simp only [render, Value.nesting, hcs, asGlyphs, List.map_cons, List.map_append, List.cons_append,
        List.map_nil, List.nil_append, List.append_assoc, Nat.add_le_add_iff_right] at hmembers hmap ⊢
      by_cases hdepth : Value.fieldsNesting (field :: fields) ≤ depth
      · simp [readValue, skipBlanks, hblank, hquote, hmembers, hmap, hdepth, Except.map]
      · simp [readValue, skipBlanks, hblank, hquote, hmembers, hdepth, Except.map]

/-- A value without doubles is read back from its text, at any place in a longer text. -/
theorem readsBack_of_data {layout : Layout} (hlayout : layout.Legible) {v : Value} (hv : Data false v) :
    ReadsBack layout v := by
  induction hv with
  | null =>
    intro fuel depth rest _ hfuel
    obtain ⟨fuel, rfl⟩ : ∃ k, fuel = k + 1 := ⟨fuel - 1, by omega⟩
    rfl
  | bool b =>
    intro fuel depth rest _ hfuel
    obtain ⟨fuel, rfl⟩ : ∃ k, fuel = k + 1 := ⟨fuel - 1, by omega⟩
    cases b <;> rfl
  | int hn => exact readsBack_int layout hn
  | float x hdoubles => cases hdoubles
  | text s => exact readsBack_text layout s
  | list hdata ih => exact readsBack_list hlayout hdata ih
  | map hnames hdata ih => exact readsBack_map hlayout hnames hdata ih

/-- The text of a value without doubles is read back as the value, if there is room for its nesting. -/
theorem parse_render {layout : Layout} (hlayout : layout.Legible) {v : Value} (hv : Data false v)
    (depth : Nat) :
    parse depth (asGlyphs (render layout v)) = if Value.nesting v ≤ depth then .ok v else .error .tooDeep := by
  have hread := readsBack_of_data hlayout hv (2 * (asGlyphs (render layout v)).length + 2) depth []
    endsValue_nil (by simp)
  have hskip := skipBlanks_of_begins (begins_render layout hv) []
  rw [List.append_nil] at hread hskip
  rw [parse, hskip, hread]
  by_cases hdepth : Value.nesting v ≤ depth
  · simp [hdepth, skipBlanks]
  · simp [hdepth]

/-- A text is the text of one value only. -/
theorem render_injective {layout : Layout} (hlayout : layout.Legible) {v w : Value} (hv : Data false v)
    (hw : Data false w) (htext : render layout v = render layout w) : v = w := by
  -- A reader with room for both values cannot tell which of them the text was made of.
  have hleft := parse_render hlayout hv (max v.nesting w.nesting)
  have hright := parse_render hlayout hw (max v.nesting w.nesting)
  rw [if_pos (Nat.le_max_left _ _)] at hleft
  rw [if_pos (Nat.le_max_right _ _), ← htext, hleft] at hright
  exact Except.ok.inj hright

theorem read_render {layout : Layout} (hlayout : layout.Legible) {v : Value} (hv : Data false v) :
    read (String.ofList (render layout v)) = if Value.nesting v ≤ depthLimit then .ok v else .error .tooDeep := by
  rw [read, glyphsOf, String.toList_ofList]
  exact parse_render hlayout hv depthLimit

end TableGateway.Json
