import TableGateway.Proofs.Filter.Entry
import TableGateway.Proofs.Filter.Key

/-!
Filters whose values are plain. Nothing but a key can be wrong with such a filter: all of its entries are written
when every key is well formed, and the first key that is not decides the failure. What is written of JSON data is
JSON data again, under names that are texts.
-/

namespace TableGateway.Filter

open TableGateway.Json TableGateway.Text

variable {doubles : Bool}

/-- A parameter that can be sent: its name is a text, and its value is JSON data for which there is room. -/
structure Sound (doubles : Bool) (parameter : List Glyph × Value) : Prop where
  name : Whole parameter.1
  data : Data doubles parameter.2
  depth : parameter.2.nesting ≤ depthLimit

theorem sound_glyphs {name t : List Glyph} (hname : Whole name) (ht : Whole t) : Sound doubles (name, .ofGlyphs t) := by
  obtain ⟨s, rfl⟩ := whole_iff.mp ht
  rw [Value.ofGlyphs_glyphsOf]
  exact ⟨hname, .text s, Nat.zero_le _⟩

theorem sound_applied {name t : List Glyph} (hname : Whole name) (op : String) (ht : Whole t) :
    Sound doubles (name, applied op t) :=
  sound_glyphs hname ((whole_glyphsOf _).append ht)

/-- An entry with a plain value, or with a map that is an argument. Such a map is not written, so that it may hold
anything. -/
def Admitted (mark : Char) (field : String × Value) : Prop :=
  Plain field.2 ∨ (field.2.raw = field.2 ∧ field.2.kind = .mapping ∧ mark ∈ field.1.toList)

/-- There is room for the value of an entry: as it is for a map under a key with an operator, else for what it holds. -/
def Roomy (mark : Char) (field : String × Value) : Prop :=
  if mark ∈ field.1.toList ∧ field.2.kind = .mapping then field.2.nesting ≤ depthLimit
  else field.2.nesting ≤ depthLimit + 1

theorem roomy_of_le {mark : Char} {field : String × Value} (hdepth : field.2.nesting ≤ depthLimit) :
    Roomy mark field := by
  unfold Roomy
  split
  · exact hdepth
  · exact Nat.le_succ_of_le hdepth

theorem Roomy.admitted {mark : Char} {field : String × Value} (hroom : Roomy mark field)
    (hdata : Data doubles field.2) : Admitted mark field := by
  refine .inl (plain_of_data hdata ?_)
  unfold Roomy at hroom
  split at hroom
  · exact Nat.le_succ_of_le hroom
  · exact hroom

theorem ne_broken_of_data {v : Value} (hv : Data doubles v) (glyphs : List Glyph) : v ≠ .broken glyphs := by
  rintro rfl
  cases hv

theorem whole_operand {v : Value} (hv : Data doubles v) : Whole (operand v) := by
  have hscalar {v : Value} (hv : Data doubles v) : Whole v.scalar := Value.whole_scalar (ne_broken_of_data hv)
  have hstars : Whole (glyphsOf "*" ++ without ':' v.scalar ++ glyphsOf "*") :=
    ((whole_glyphsOf _).append ((hscalar hv).without ':')).append (whole_glyphsOf _)
  cases hv with
  | null | bool _ | int _ | float _ _ => exact whole_glyphsOf _
  | text _ | map _ _ => exact hstars
  | list hitems =>
    refine ((whole_glyphsOf _).append (Whole.without (Whole.commas fun part hpart => ?_) ':')).append (whole_glyphsOf _)
    obtain ⟨item, hitem, rfl⟩ := List.mem_map.mp hpart
    exact hscalar (hitems item hitem)

theorem sound_nested {fields : Fields Value} (hfields : ∀ field ∈ fields, Data doubles field.2) (op field : String) :
    ∀ parameter ∈ (fields.map fun entry => (Value.text entry.1, entry.2)).map (nested op field),
      Sound doubles parameter := by
  intro parameter hparameter
  obtain ⟨_, hpair, rfl⟩ := List.mem_map.mp hparameter
  obtain ⟨entry, hentry, rfl⟩ := List.mem_map.mp hpair
  have hinset : Whole entry.2.inset := Value.whole_inset (ne_broken_of_data (hfields entry hentry))
  exact sound_applied ((whole_glyphsOf _).append (whole_glyphsOf _)) op
    (((whole_glyphsOf _).append hinset).append (whole_glyphsOf _))

/-- What an entry with JSON data contributes can be sent, if there is room for it. -/
theorem sound_contribution {mark : Char} {name : String} {key : Key} {v : Value} (hv : Data doubles v)
    (hoperator : key.operator = none ↔ mark ∉ name.toList) (hroom : Roomy mark (name, v)) :
    ∀ parameter ∈ contribution key v, Sound doubles parameter := by
  have hwhole := whole_glyphsOf key.whole
  by_cases hmap : ∃ fields, v = .map fields
  · obtain ⟨fields, rfl⟩ := hmap
    cases hkey : key.operator with
    | none =>
      rw [contribution_of_paths rfl hkey]
      cases hv with
      | map _ hfields => exact fun parameter hmem => sound_nested hfields _ _ parameter (Fields.mem_ofPairs hmem)
    | some op =>
      have hmark : mark ∈ name.toList := by simpa [hkey] using hoperator
      rw [Roomy, if_pos ⟨hmark, rfl⟩] at hroom
      rw [contribution_of_argument rfl hkey]
      exact List.forall_mem_singleton.mpr ⟨hwhole, hv, hroom⟩
  · have hpairs : v.pairs? = none := by
      cases hv with
      | map _ _ => exact absurd ⟨_, rfl⟩ hmap
      | _ => rfl
    rw [contribution_of_not_map hpairs]
    exact List.forall_mem_singleton.mpr (sound_applied hwhole _ (whole_operand hv))

section

variable {scheme : Scheme} {mark : Char}

theorem exists_entry (hmark : scheme.separator = String.singleton mark) {name : String} {v : Value}
    (hname : Key.WellFormed mark name) (hv : Admitted mark (name, v)) :
    ∃ key, scheme.entry name v = .ok (contribution key v) ∧ key.whole = name ∧
      (key.operator = none ↔ mark ∉ name.toList) ∧ (key.operator = none → key.field = name) := by
  obtain ⟨key, hkey, hwhole, hoperator, hfield⟩ := Key.parse_wellFormed hname
  rw [← hmark] at hkey
  refine ⟨key, ?_, hwhole, hoperator, hfield⟩
  rcases hv with hplain | ⟨hraw, hkind, hmem⟩
  · exact entry_of_plain hkey hplain
  · obtain ⟨op, hop⟩ := Option.ne_none_iff_exists'.mp fun hnone => hoperator.mp hnone hmem
    exact entry_of_argument hkey hop hraw hkind

theorem entry_malformed (hmark : scheme.separator = String.singleton mark) {name : String}
    (hname : ¬ Key.WellFormed mark name) (v : Value) :
    scheme.entry name v = .error (.filterKey (.text name) (.text scheme.separator)) := by
  rw [Scheme.entry, hmark, Key.parse_malformed hname]
  rfl

/-- The parameters that an entry contributes, none if it cannot be written. -/
def Scheme.part (scheme : Scheme) (field : String × Value) : Parameters :=
  (scheme.entry field.1 field.2).toOption.getD []

theorem part_of_entry {field : String × Value} {part : Parameters} (hpart : scheme.entry field.1 field.2 = .ok part) :
    scheme.part field = part := by
  rw [Scheme.part, hpart]
  rfl

/-- A filter is written when all of its entries are. Its parameters are then those of the entries, joined. -/
theorem parameters_eq_ok_iff {filter : Fields Value} {parameters : Parameters} :
    scheme.parameters filter = .ok parameters ↔
      (∀ field ∈ filter, ∃ part, scheme.entry field.1 field.2 = .ok part) ∧
        Fields.ofPairs (filter.flatMap scheme.part) = parameters := by
  have hentry : ∀ field : String × Value,
      (∃ part, scheme.entry field.1 field.2 = .ok part) ↔ scheme.entry field.1 field.2 = .ok (scheme.part field) := by
    intro field
    constructor
    · rintro ⟨part, hpart⟩
      rw [part_of_entry hpart, hpart]
    · intro hpart
      exact ⟨_, hpart⟩
  rw [Scheme.parameters, Sequence.bind_eq_ok_iff]
  simp only [hentry, pure, Except.pure, Except.ok.injEq]
  constructor
  · rintro ⟨parts, hparts, hjoined⟩
    have hentries := Sequence.mapM_eq_ok_iff.mp hparts
    have hall : ∀ field ∈ filter, scheme.entry field.1 field.2 = .ok (scheme.part field) := by
      intro field hfield
      obtain ⟨part, -, hpart⟩ := Sequence.exists_of_mem_left hentries hfield
      exact (hentry field).mp ⟨part, hpart⟩
    rw [Sequence.mapM_eq_ok_map hall] at hparts
    cases hparts
    exact ⟨hall, hjoined⟩
  · rintro ⟨hall, hjoined⟩
    exact ⟨_, Sequence.mapM_eq_ok_map hall, hjoined⟩

theorem parameters_of_single {name : String} {v : Value} {parameter : List Glyph × Value}
    (hentry : scheme.entry name v = .ok [parameter]) : scheme.parameters [(name, v)] = .ok [parameter] := by
  refine parameters_eq_ok_iff.mpr ⟨List.forall_mem_singleton.mpr ⟨_, hentry⟩, ?_⟩
  have hpart : scheme.part (name, v) = [parameter] := part_of_entry hentry
  rw [List.flatMap_singleton, hpart]
  rfl

theorem parameters_of_entry_error {name : String} {v : Value} {failure : Failure}
    (hentry : scheme.entry name v = .error failure) : scheme.parameters [(name, v)] = .error failure := by
  rw [Scheme.parameters, List.mapM_cons, hentry]
  rfl

theorem exists_parameters_iff_forall {filter : Fields Value} :
    (∃ parameters, scheme.parameters filter = .ok parameters) ↔
      ∀ field ∈ filter, ∃ part, scheme.entry field.1 field.2 = .ok part := by
  simp only [parameters_eq_ok_iff]
  constructor
  · rintro ⟨_, hall, -⟩
    exact hall
  · intro hall
    exact ⟨_, hall, rfl⟩

/-- No two parameters of a filter have one name. -/
theorem nodup_names_of_parameters {filter : Fields Value} {parameters : Parameters}
    (hparameters : scheme.parameters filter = .ok parameters) : parameters.names.Nodup := by
  obtain ⟨-, rfl⟩ := parameters_eq_ok_iff.mp hparameters
  exact Fields.nodup_names_ofPairs _

/-- A filter that has parameters has well formed keys. -/
theorem wellFormed_of_parameters (hmark : scheme.separator = String.singleton mark) {filter : Fields Value}
    {parameters : Parameters} (hparameters : scheme.parameters filter = .ok parameters) :
    ∀ field ∈ filter, Key.WellFormed mark field.1 := by
  intro field hfield
  obtain ⟨part, hpart⟩ := exists_parameters_iff_forall.mp ⟨parameters, hparameters⟩ field hfield
  by_contra hname
  rw [entry_malformed hmark hname] at hpart
  cases hpart

/-- A filter with admitted entries is written exactly when its keys are well formed. -/
theorem exists_parameters_iff (hmark : scheme.separator = String.singleton mark) {filter : Fields Value}
    (hvalues : ∀ field ∈ filter, Admitted mark field) :
    (∃ parameters, scheme.parameters filter = .ok parameters) ↔ ∀ field ∈ filter, Key.WellFormed mark field.1 := by
  constructor
  · rintro ⟨parameters, hparameters⟩
    exact wellFormed_of_parameters hmark hparameters
  · intro hnames
    rw [exists_parameters_iff_forall]
    intro field hfield
    obtain ⟨key, hkey, -⟩ := exists_entry hmark (hnames field hfield) (hvalues field hfield)
    exact ⟨_, hkey⟩

theorem parameters_of_data (hmark : scheme.separator = String.singleton mark) {filter : Fields Value}
    (hnames : ∀ field ∈ filter, Key.WellFormed mark field.1) (hvalues : ∀ field ∈ filter, Data doubles field.2)
    (hroom : ∀ field ∈ filter, Roomy mark field) :
    ∃ parameters, scheme.parameters filter = .ok parameters ∧ ∀ parameter ∈ parameters, Sound doubles parameter := by
  have hadmitted : ∀ field ∈ filter, Admitted mark field := fun field hfield =>
    (hroom field hfield).admitted (hvalues field hfield)
  obtain ⟨parameters, hparameters⟩ := (exists_parameters_iff hmark hadmitted).mpr hnames
  refine ⟨parameters, hparameters, fun parameter hparameter => ?_⟩
  obtain ⟨-, rfl⟩ := parameters_eq_ok_iff.mp hparameters
  obtain ⟨field, hfield, hmem⟩ := List.mem_flatMap.mp (Fields.mem_ofPairs hparameter)
  obtain ⟨key, hkey, -, hoperator, -⟩ := exists_entry hmark (hnames field hfield) (hadmitted field hfield)
  rw [part_of_entry hkey] at hmem
  exact sound_contribution (hvalues field hfield) hoperator (hroom field hfield) parameter hmem

/-- The first key that is not well formed decides the failure of a filter. -/
theorem parameters_malformed (hmark : scheme.separator = String.singleton mark) {before after : Fields Value}
    {name : String} {v : Value} (hbefore : ∀ field ∈ before, Key.WellFormed mark field.1)
    (hvalues : ∀ field ∈ before, Admitted mark field) (hname : ¬ Key.WellFormed mark name) :
    scheme.parameters (before ++ (name, v) :: after) =
      .error (.filterKey (.text name) (.text scheme.separator)) := by
  have hentries : (before ++ (name, v) :: after).mapM (fun field => scheme.entry field.1 field.2) =
      .error (.filterKey (.text name) (.text scheme.separator)) := by
    refine Sequence.mapM_eq_error (fun field hfield => ?_) (entry_malformed hmark hname v)
    obtain ⟨key, hkey, -⟩ := exists_entry hmark (hbefore field hfield) (hvalues field hfield)
    exact ⟨_, hkey⟩
  rw [Scheme.parameters, hentries]
  rfl

end

end TableGateway.Filter
