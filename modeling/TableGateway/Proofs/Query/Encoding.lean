import Mathlib.Data.List.Nodup
import TableGateway.Proofs.Form
import TableGateway.Proofs.Text.Glyph
import TableGateway.Proofs.Value.Fitting
import TableGateway.Query.Encoding

/-!
Queries of parameters. A query comes about exactly when every name is a text and every value has one, and what is
form-encoded then is the JSON text of a map and the plain text of every other value. JSON data has a text if there is
room for it.
-/

namespace TableGateway.Query

open TableGateway.Json TableGateway.Text

variable {doubles : Bool}

/-- What a parameter becomes before it is escaped. -/
def plainOf : Value → Value
  | .map fields => .text (String.ofList (render spaced (.map fields)))
  | v => v

/-- The text that stands for a parameter, before it is escaped. -/
def written (v : Value) : String := (plainOf v).display

/-- The text that is sent for a parameter of any kind, before it is escaped. -/
def WrittenAs (v : Value) (text : String) : Prop :=
  ∃ plain, sent v = .ok plain ∧ parameterText plain = .ok text

/-- The parameter can be sent. -/
def Writable (v : Value) : Prop := ∃ text, WrittenAs v text

theorem sent_of_data {v : Value} (hv : Data doubles v) (hdepth : v.nesting ≤ depthLimit) :
    sent v = .ok (plainOf v) := by
  cases hv with
  | map hnames hfields =>
    rw [sent, write_of_data (.map hnames hfields), if_pos hdepth]
    rfl
  | _ => rfl

theorem parameterText_of_data {v : Value} (hv : Data doubles v) (hdepth : v.nesting ≤ depthLimit) :
    parameterText (plainOf v) = .ok (written v) := by
  have hfitting := (Value.hasText_of_data hv hdepth).fitting
  cases hv with
  | map _ _ => rfl
  | _ =>
    simp only [plainOf, parameterText, hfitting]
    rfl

/-- JSON data is sent as the text that stands for it. -/
theorem writtenAs_of_data {v : Value} (hv : Data doubles v) (hdepth : v.nesting ≤ depthLimit) :
    WrittenAs v (written v) :=
  ⟨plainOf v, sent_of_data hv hdepth, parameterText_of_data hv hdepth⟩

/-- Glyphs are sent when they are a text, and as that text. -/
theorem parameterText_ofGlyphs {glyphs : List Glyph} {s : String} :
    parameterText (.ofGlyphs glyphs) = .ok s ↔ glyphs = glyphsOf s := by
  rcases Value.ofGlyphs_cases glyphs with ⟨text, htext, rfl⟩ | ⟨hbroken, hwhole⟩
  · have hsent : parameterText (.text text) = .ok text := rfl
    rw [htext, hsent, glyphsOf_inj, Except.ok.injEq]
  · rw [hbroken]
    constructor
    · nofun
    · rintro rfl
      exact absurd (whole_glyphsOf s) hwhole

theorem sent_ofGlyphs (glyphs : List Glyph) : sent (.ofGlyphs glyphs) = .ok (.ofGlyphs glyphs) := by
  rcases Value.ofGlyphs_cases glyphs with ⟨text, htext, -⟩ | ⟨hbroken, -⟩
  · rw [htext]
    rfl
  · rw [hbroken]
    rfl

theorem writtenAs_ofGlyphs {glyphs : List Glyph} {s : String} :
    WrittenAs (.ofGlyphs glyphs) s ↔ glyphs = glyphsOf s := by
  rw [WrittenAs, sent_ofGlyphs, ← parameterText_ofGlyphs]
  simp

theorem writtenAs_text {s text : String} : WrittenAs (.text s) text ↔ s = text := by
  rw [← Value.ofGlyphs_glyphsOf, writtenAs_ofGlyphs, glyphsOf_inj]

theorem writable_text (s : String) : Writable (.text s) := ⟨s, writtenAs_text.mpr rfl⟩

/-- Parameters are encoded exactly when each of them has a name and a text. -/
theorem encode_eq_ok_iff {parameters : Parameters} {query : String} :
    encode parameters = .ok query ↔
      ∃ texts : Fields String, List.Forall₂
        (fun parameter text => parameter.1 = glyphsOf text.1 ∧ WrittenAs parameter.2 text.2) parameters texts ∧
          Form.encode texts = query := by
  have hstep : ∀ (parameter : List Glyph × Value) (text : String × String),
      (∃ plain : Value × Value,
        (do return (.ofGlyphs parameter.1, ← sent parameter.2) : Except Failure (Value × Value)) = .ok plain ∧
        (do return (← parameterText plain.1, ← parameterText plain.2) : Except Failure _) = .ok text) ↔
      parameter.1 = glyphsOf text.1 ∧ WrittenAs parameter.2 text.2 := by
    rintro ⟨name, v⟩ ⟨textName, text⟩
    rw [← parameterText_ofGlyphs]
    constructor
    · rintro ⟨plain, hsent, htexts⟩
      obtain ⟨value, hvalue, heq⟩ := Sequence.bind_eq_ok_iff.mp hsent
      cases heq
      obtain ⟨first, hfirst, hrest⟩ := Sequence.bind_eq_ok_iff.mp htexts
      obtain ⟨second, hsecond, heq⟩ := Sequence.bind_eq_ok_iff.mp hrest
      cases heq
      exact ⟨hfirst, value, hvalue, hsecond⟩
    · rintro ⟨hname, value, hvalue, htext⟩
      exact ⟨(.ofGlyphs name, value), Sequence.bind_eq_ok_iff.mpr ⟨value, hvalue, rfl⟩,
        Sequence.bind_eq_ok_iff.mpr ⟨_, hname, Sequence.bind_eq_ok_iff.mpr ⟨_, htext, rfl⟩⟩⟩
  rw [encode, encodePairs]
  simp only [Sequence.bind_eq_ok_iff]
  constructor
  · rintro ⟨plain, hsent, texts, htexts, hquery⟩
    have hpasses := Sequence.mapM_mapM_eq_ok_iff.mp ⟨plain, hsent, htexts⟩
    rw [asPairs, List.forall₂_map_left_iff] at hpasses
    exact ⟨texts, hpasses.imp fun parameter text => (hstep parameter text).mp, Except.ok.inj hquery⟩
  · rintro ⟨texts, htexts, rfl⟩
    have hpasses : List.Forall₂ (fun (pair : Value × Value) (text : String × String) => ∃ plain : Value × Value,
        (do return (pair.1, ← sent pair.2) : Except Failure (Value × Value)) = .ok plain ∧
        (do return (← parameterText plain.1, ← parameterText plain.2) : Except Failure _) = .ok text)
        (asPairs parameters) texts := by
      rw [asPairs, List.forall₂_map_left_iff]
      exact htexts.imp fun parameter text => (hstep parameter text).mpr
    obtain ⟨plain, hsent, hplain⟩ := Sequence.mapM_mapM_eq_ok_iff.mpr hpasses
    exact ⟨plain, hsent, texts, hplain, rfl⟩

/-- The parameter can be sent as far as maps are concerned, or it fails with the given failure. -/
def FailsOnlyAs (failure : Failure) (parameter : List Glyph × Value) : Prop :=
  (∃ plain, sent parameter.2 = .ok plain) ∨ sent parameter.2 = .error failure

theorem FailsOnlyAs.glyphs (failure : Failure) (name glyphs : List Glyph) :
    FailsOnlyAs failure (name, .ofGlyphs glyphs) := .inl ⟨_, sent_ofGlyphs glyphs⟩

/-- A map without a JSON text keeps the parameters from being sent. When no other parameter fails differently, its
failure is that of the query. -/
theorem encode_eq_error {parameters : Parameters} {parameter : List Glyph × Value} {failure : Failure}
    (hparameter : parameter ∈ parameters) (hunsent : sent parameter.2 = .error failure)
    (hothers : ∀ other ∈ parameters, FailsOnlyAs failure other) :
    encode parameters = .error failure := by
  have hsent : (asPairs parameters).mapM
      (fun pair => do return (pair.1, ← sent pair.2) : _ → Except Failure (Value × Value)) = .error failure := by
    rcases Sequence.forall_or_first (fun other => ∃ plain, sent other.2 = .ok plain) parameters with
      hall | ⟨before, first, after, rfl, hbefore, hfirst⟩
    · obtain ⟨plain, hplain⟩ := hall parameter hparameter
      cases hunsent.symm.trans hplain
    · rw [asPairs, List.map_append, List.map_cons]
      have hfailure := (hothers first (by simp)).resolve_left hfirst
      refine Sequence.mapM_eq_error ?_ (Sequence.bind_eq_error_iff.mpr (.inl hfailure))
      rw [List.forall_mem_map]
      intro other hother
      obtain ⟨plain, hplain⟩ := hbefore other hother
      exact ⟨_, Sequence.bind_eq_ok_iff.mpr ⟨plain, hplain, rfl⟩⟩
  rw [encode, encodePairs, hsent]
  rfl

/-- Parameters whose names are texts. -/
def underTexts (fields : Fields Value) : Parameters := fields.map fun field => (glyphsOf field.1, field.2)

/-- JSON data is encoded as parameters, each in the text that stands for it. -/
theorem encode_of_data {fields : Fields Value} (hfields : ∀ field ∈ fields, Data doubles field.2)
    (hdepth : ∀ field ∈ fields, field.2.nesting ≤ depthLimit) :
    encode (underTexts fields) = .ok (Form.encode (fields.mapValues written)) := by
  refine encode_eq_ok_iff.mpr ⟨_, ?_, rfl⟩
  rw [underTexts, Fields.mapValues, List.forall₂_map_left_iff, List.forall₂_map_right_iff, List.forall₂_same]
  exact fun field hfield => ⟨rfl, writtenAs_of_data (hfields field hfield) (hdepth field hfield)⟩

/-- What is matched can be sent when it is made of texts, and is sent as these. -/
theorem encode_ofTexts_eq_ok_iff {fields : Fields (List Glyph)} {query : String} :
    encode (ofTexts fields) = .ok query ↔
      ∃ texts : Fields String, fields = texts.mapValues glyphsOf ∧ Form.encode texts = query := by
  rw [encode_eq_ok_iff]
  refine exists_congr fun texts => and_congr_left fun _ => ?_
  have hsame : fields = texts.mapValues glyphsOf ↔ List.Forall₂ (· = ·) fields (texts.mapValues glyphsOf) := by
    rw [List.forall₂_eq_eq_eq]
  rw [hsame, ofTexts, Fields.mapValues, List.forall₂_map_left_iff, List.forall₂_map_right_iff]
  simp only [writtenAs_ofGlyphs, glyphsOf_inj, Prod.ext_iff]

theorem encode_texts (texts : Fields String) :
    encode (ofTexts (texts.mapValues glyphsOf)) = .ok (Form.encode texts) :=
  encode_ofTexts_eq_ok_iff.mpr ⟨texts, rfl, rfl⟩

theorem encode_underTexts (texts : Fields String) :
    encode (underTexts (texts.mapValues .text)) = .ok (Form.encode texts) := by
  have hsame : underTexts (texts.mapValues .text) = ofTexts (texts.mapValues glyphsOf) := by
    simp only [underTexts, ofTexts, Fields.mapValues, List.map_map, Function.comp_def, Value.ofGlyphs_glyphsOf]
  rw [hsame, encode_texts]

/-- A parameter that is a text is sent as that text. -/
theorem get?_of_encode {parameters : Parameters} {query name s : String} (hquery : encode parameters = .ok query)
    (hnames : parameters.names.Nodup) (hget : parameters.get? (glyphsOf name) = some (.text s)) :
    ∃ texts, Form.decode? query = some texts ∧ texts.names.Nodup ∧ texts.get? name = some s := by
  obtain ⟨texts, htexts, rfl⟩ := encode_eq_ok_iff.mp hquery
  have hsame : parameters.names = texts.names.map glyphsOf := by
    rw [Fields.names, Fields.names, List.map_map, ← List.forall₂_eq_eq_eq, List.forall₂_map_left_iff,
      List.forall₂_map_right_iff]
    exact htexts.imp fun parameter text h => h.1
  have hnodup : texts.names.Nodup := by
    rw [hsame] at hnames
    exact List.Nodup.of_map _ hnames
  obtain ⟨text, htext, hname, hwritten⟩ := Sequence.exists_of_mem_left htexts (Fields.mem_of_get? hget)
  refine ⟨texts, Form.decode?_encode texts, hnodup, ?_⟩
  obtain ⟨textName, value⟩ := text
  rw [glyphsOf_inj.mp hname, writtenAs_text.mp hwritten]
  exact Fields.get?_of_mem hnodup htext

/-- Parameters that all have a name and a text can be encoded. -/
theorem exists_encode {parameters : Parameters}
    (hparameters : ∀ parameter ∈ parameters, Whole parameter.1 ∧ Writable parameter.2) :
    ∃ query, encode parameters = .ok query := by
  have htexts : ∀ parameter ∈ parameters, ∃ text : String × String,
      parameter.1 = glyphsOf text.1 ∧ WrittenAs parameter.2 text.2 := by
    intro parameter hparameter
    obtain ⟨hname, text, htext⟩ := hparameters parameter hparameter
    obtain ⟨name, hname⟩ := whole_iff.mp hname
    exact ⟨(name, text), hname.symm, htext⟩
  obtain ⟨texts, htexts⟩ := Sequence.exists_forall₂ htexts
  exact ⟨_, encode_eq_ok_iff.mpr ⟨texts, htexts, rfl⟩⟩

/-- What is matched can be sent if it is made of texts. -/
theorem exists_encode_ofTexts {fields : Fields (List Glyph)} (hfields : ∀ field ∈ fields, Whole field.2) :
    ∃ query, encode (ofTexts fields) = .ok query := by
  apply exists_encode
  intro parameter hparameter
  obtain ⟨field, hfield, rfl⟩ := List.mem_map.mp hparameter
  obtain ⟨text, htext⟩ := whole_iff.mp (hfields field hfield)
  exact ⟨whole_glyphsOf field.1, text, writtenAs_ofGlyphs.mpr htext.symm⟩

end TableGateway.Query
