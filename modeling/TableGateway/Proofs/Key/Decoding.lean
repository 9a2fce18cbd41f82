import TableGateway.Key.Identifier
import TableGateway.Operation.Identifier
import TableGateway.Proofs.Json.Reading

/-!
What identifiers are decoded to. Under a key of one field this is the identifier itself as a scalar. Under a
compound key the identifier has to spell an array with one value for each field, and each of these values is a scalar
then.
-/

namespace TableGateway

open TableGateway.Json TableGateway.Text
open TableGateway.Operation (Identifier)

/-- The identifier is the text of an array with one value for each field of the key. -/
def Operation.Identifier.Spells (id : Identifier) (key : PrimaryKey) : Prop :=
  ∃ values, Json.read id.toValue.display = .ok (.list values) ∧ values.length = key.length

/-- The identifier is the JSON text of an array with one value for each field of a key, but one that goes deeper than
the reader has room for. -/
def Operation.Identifier.SpellsBeyond (id : Identifier) (key : PrimaryKey) : Prop :=
  Json.read id.toValue.display = .error .tooDeep ∧ ∃ depth values,
    Json.parse depth (glyphsOf id.toValue.display) = .ok (.list values) ∧ values.length = key.length

/-- If the identifier goes too deep to be read under a compound key, then as the JSON text of an array of the key. -/
def Operation.Identifier.Settled (id : Identifier) (key : PrimaryKey) : Prop :=
  Key.isCompound key → Json.read id.toValue.display = .error .tooDeep → id.SpellsBeyond key

/-- An integer that can be written, or a text that does not spell a lone surrogate as a value of a key, so that what it
is decoded to can be sent. -/
def Operation.Identifier.Plain (id : Identifier) : Prop :=
  id.toValue.fits ∧ ∀ values, Json.read id.toValue.display = .ok (.list values) →
    ∀ glyphs, Value.broken glyphs ∉ values

namespace Key

theorem field_of_not_compound {key : PrimaryKey} (hkey : key ≠ []) (hfield : isCompound key = false) :
    ∃ name, key = [name] := by
  apply List.length_eq_one_iff.mp
  have hpos := List.length_pos_iff.mpr hkey
  have hfew : ¬ 1 < key.length := by simpa [isCompound] using hfield
  omega

theorem two_le_of_compound {key : PrimaryKey} (hkey : isCompound key) : 2 ≤ key.length :=
  of_decide_eq_true hkey

theorem hasText_identifier {id : Identifier} (hfits : id.toValue.fits) : id.toValue.HasText := by
  refine ⟨hfits, ?_⟩
  cases id <;> exact Nat.zero_le depthLimit

theorem script_identifier (id : Identifier) : id.toValue.script = glyphsOf id.toValue.display := by
  cases id <;> rfl

theorem scalar_identifier (id : Identifier) : id.toValue.scalar = glyphsOf id.toValue.display := by
  cases id <;> rfl

theorem inset_identifier (id : Identifier) : id.toValue.inset = id.toValue.scalar := by
  cases id <;> rfl

theorem asScalar_identifier {id : Identifier} (hfits : id.toValue.fits) :
    id.toValue.asScalar = .ok id.toValue.scalar :=
  (hasText_identifier hfits).asScalar

theorem asInset_toValue (id : Identifier) : id.toValue.asInset = id.toValue.asScalar := by
  rw [Value.asInset, Value.asScalar]
  cases hfit : id.toValue.fitting with
  | error failure => rfl
  | ok fit =>
    obtain ⟨-, rfl⟩ := Value.fitting_eq_ok_iff.mp hfit
    exact congrArg Except.ok (inset_identifier id)

theorem asInset_reference {id? : Option Identifier} (hfits : ∀ id ∈ id?, id.toValue.fits) :
    (id?.elim .null Identifier.toValue).asInset = .ok (id?.elim .null Identifier.toValue).scalar := by
  cases id? with
  | none => rfl
  | some id => exact (asInset_toValue id).trans (asScalar_identifier (hfits id rfl))

section

variable {key : PrimaryKey}

theorem decode_field_value (id : Value) (name : String) : decode id [name] = (id.asScalar).map fun t => [t] := by
  have hvalues : valuesOf id [name] = .ok [id] := rfl
  rw [decode, hvalues]
  change [id].mapM Value.asScalar = _
  cases hid : id.asScalar <;> simp [hid, bind, Except.bind, pure, Except.pure, Except.map]

theorem decode_field {id : Identifier} {name : String} {row : List (List Glyph)} :
    decode id.toValue [name] = .ok row ↔ ∃ value, id.toValue.asScalar = .ok value ∧ row = [value] := by
  rw [decode_field_value, Sequence.map_eq_ok_iff]
  exact exists_congr fun value => and_congr_right fun _ => eq_comm

/-- Under a compound key an identifier is decoded to the values of the array that it spells, as scalars. Otherwise it is
malformed, unless it is given up as nested too deep. -/
theorem decode_compound (hkey : isCompound key) {id : Value} (hid : id.HasText) :
    decode id key =
      match Json.parse depthLimit id.script with
      | .ok (.list values) =>
        if values.length = key.length then .ok (values.map Value.scalar) else .error (.identifier id (key.map .text))
      | .error .tooDeep => .error .tooDeep
      | _ => .error (.identifier id (key.map .text)) := by
  rw [decode, valuesOf, if_pos hkey, hid.fitting]
  simp only [bind, Except.bind]
  cases hread : Json.parse depthLimit id.script with
  | error fault => cases fault <;> rfl
  | ok v =>
    cases v with
    | list values =>
      by_cases hlength : values.length = key.length
      · simp only [hlength, if_true]
        exact Value.scalars_of_hasText (hasText_of_mem hread)
      · simp only [hlength, if_false]
    | _ => rfl

theorem length_of_decode (hkey : isCompound key) {id : Value} {row : List (List Glyph)}
    (hrow : decode id key = .ok row) :
    row.length = key.length := by
  cases hfit : id.fitting with
  | error failure =>
    rw [decode, valuesOf, if_pos hkey, hfit] at hrow
    cases hrow
  | ok fit =>
    rw [decode_compound hkey (Value.fitting_eq_ok_iff.mp hfit).1] at hrow
    split at hrow
    · split at hrow
      · next hlength =>
        cases hrow
        rw [List.length_map, hlength]
      · cases hrow
    · cases hrow
    · cases hrow

end

theorem scalars_of_decode_field {name : String} {ids : List Value} {rows : List (List (List Glyph))}
    (hrows : List.Forall₂ (fun id row => decode id [name] = .ok row) ids rows) :
    ∃ values, ids.mapM Value.asScalar = .ok values ∧ rows = values.map fun value => [value] := by
  have hfound : ∃ values, List.Forall₂ (fun id value => id.asScalar = .ok value) ids values ∧
      rows = values.map fun value => [value] := by
    induction hrows with
    | nil => exact ⟨[], .nil, rfl⟩
    | cons hrow _ ih =>
      rw [decode_field_value] at hrow
      obtain ⟨value, hvalue, rfl⟩ := Sequence.map_eq_ok_iff.mp hrow
      obtain ⟨values, hvalues, rfl⟩ := ih
      exact ⟨value :: values, .cons hvalue hvalues, rfl⟩
  obtain ⟨values, hvalues, hrows⟩ := hfound
  exact ⟨values, Sequence.mapM_eq_ok_iff.mpr hvalues, hrows⟩

section

variable {key : PrimaryKey} {id : Identifier}

theorem decode_identifier (hkey : isCompound key) (hfits : id.toValue.fits) :
    decode id.toValue key =
      match Json.read id.toValue.display with
      | .ok (.list values) =>
        if values.length = key.length then .ok (values.map Value.scalar)
        else .error (.identifier id.toValue (key.map .text))
      | .error .tooDeep => .error .tooDeep
      | _ => .error (.identifier id.toValue (key.map .text)) := by
  rw [decode_compound hkey (hasText_identifier hfits), script_identifier]
  rfl

theorem decode_array (hkey : isCompound key) (hfits : id.toValue.fits) {values : List Value}
    (hread : Json.read id.toValue.display = .ok (.list values)) (hlength : values.length = key.length) :
    decode id.toValue key = .ok (values.map Value.scalar) := by
  rw [decode_identifier hkey hfits, hread]
  exact if_pos hlength

theorem decode_tooDeep (hkey : isCompound key) (hfits : id.toValue.fits)
    (hread : Json.read id.toValue.display = .error .tooDeep) : decode id.toValue key = .error .tooDeep := by
  rw [decode_identifier hkey hfits, hread]

theorem decode_not_spells (hkey : isCompound key) (hfits : id.toValue.fits) (hid : ¬ id.Spells key)
    (hread : Json.read id.toValue.display ≠ .error .tooDeep) :
    decode id.toValue key = .error (.identifier id.toValue (key.map .text)) := by
  rw [decode_identifier hkey hfits]
  split
  · next values hvalues => exact if_neg fun hlength => hid ⟨values, hvalues, hlength⟩
  · next hdeep => exact absurd hdeep hread
  · rfl

/-- An identifier that is not decoded does not spell an array of the key, or arrays are nested too deep in it. -/
theorem decode_eq_error (hkey : isCompound key) (hfits : id.toValue.fits) {failure : Failure}
    (hrow : decode id.toValue key = .error failure) :
    failure = .identifier id.toValue (key.map .text) ∧ Json.read id.toValue.display ≠ .error .tooDeep ∨
      failure = .tooDeep ∧ Json.read id.toValue.display = .error .tooDeep := by
  rw [decode_identifier hkey hfits] at hrow
  split at hrow
  · next hread =>
    split at hrow
    · cases hrow
    · cases hrow
      exact .inl ⟨rfl, by simp [hread]⟩
  · next hread =>
    cases hrow
    exact .inr ⟨rfl, hread⟩
  · next hdeep =>
    cases hrow
    exact .inl ⟨rfl, hdeep⟩

theorem decode_plain (hnonempty : key ≠ []) (hfits : id.toValue.fits) (hid : isCompound key → id.Spells key) :
    ∃ row, decode id.toValue key = .ok row := by
  cases hkey : isCompound key with
  | false =>
    obtain ⟨name, rfl⟩ := field_of_not_compound hnonempty hkey
    exact ⟨_, decode_field.mpr ⟨_, asScalar_identifier hfits, rfl⟩⟩
  | true =>
    obtain ⟨values, hread, hlength⟩ := hid hkey
    exact ⟨_, decode_array hkey hfits hread hlength⟩

end

end Key

end TableGateway
