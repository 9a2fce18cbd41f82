import TableGateway.Proofs.Check.Checked
import TableGateway.Proofs.Fields
import TableGateway.Proofs.Sequence
import TableGateway.Settings

/-!
What is known about settings that passed their checks: there is an address, and the mark between a filter field and
its operator is a single character. Every key has a field once there is a registry of the keys, also the standard
one.
-/

namespace TableGateway.Settings

open TableGateway.Check TableGateway.Check.Checked TableGateway.Text

/-- Settings that gateways can rely on. -/
structure Valid (settings : Settings) : Prop where
  apiUrl : settings.apiUrl ≠ ""
  keys : ∀ entry ∈ settings.primaryKeys, entry.2 ≠ []
  separator : ∃ mark, settings.separator = String.singleton mark

/-- There is a registry of the keys exactly when each of them has a field. -/
theorem registry_eq_ok_iff {settings : Settings} {registry : Key.Registry String} :
    settings.registry = .ok registry ↔ (∀ entry ∈ settings.primaryKeys, entry.2 ≠ []) ∧
      registry = ⟨settings.primaryKeys.map fun entry => (.text entry.1, entry.2)⟩ := by
  have hentry (entry : String × PrimaryKey) (held : Value × PrimaryKey) :
      Key.Registry.checked (.text entry.1, entry.2) = .ok held ↔ entry.2 ≠ [] ∧ (.text entry.1, entry.2) = held := by
    rw [Key.Registry.checked]
    cases hfields : entry.2 <;> simp
  rw [Settings.registry, Sequence.bind_eq_ok_iff]
  simp only [Sequence.mapM_eq_ok_iff, hentry]
  constructor
  · rintro ⟨held, hheld, hmade⟩
    cases hmade
    refine ⟨fun entry hmem => ?_, congrArg Key.Registry.mk ?_⟩
    · obtain ⟨_, -, hne, -⟩ := Sequence.exists_of_mem_left hheld hmem
      exact hne
    · rw [← List.forall₂_eq_eq_eq, List.forall₂_map_right_iff]
      exact hheld.flip.imp fun _ _ hboth => hboth.2.symm
  · rintro ⟨hkeys, rfl⟩
    refine ⟨_, ?_, rfl⟩
    rw [List.forall₂_map_right_iff, List.forall₂_same]
    exact fun entry hmem => ⟨hkeys entry hmem, rfl⟩

/-- An address is a text of more than slashes, and it is held without those at its end. -/
theorem address_eq_accepted_iff {v : Value} {s : String} :
    address v = .accepted s ↔ ∃ given, text v = .accepted given ∧ trimRight '/' given.toList ≠ [] ∧
      String.ofList (trimRight '/' given.toList) = s := by
  rw [address, andThen_eq_accepted_iff]
  refine exists_congr fun given => and_congr_right fun _ => ?_
  dsimp only
  split
  · next hempty =>
    constructor
    · intro hgiven
      cases hgiven
    · rintro ⟨hnonempty, -⟩
      exact absurd (List.isEmpty_iff.mp hempty) hnonempty
  · next hnonempty =>
    rw [List.isEmpty_iff] at hnonempty
    simp [hnonempty]

theorem ne_empty_of_address {v : Value} {s : String} (haddress : address v = .accepted s) : s ≠ "" := by
  obtain ⟨given, -, hnonempty, rfl⟩ := address_eq_accepted_iff.mp haddress
  simpa using hnonempty

theorem singleton_of_character {v : Value} {s : String} (hcharacter : character v = .accepted s) :
    ∃ mark, s = String.singleton mark := by
  obtain ⟨given, -, hgiven⟩ := andThen_eq_accepted_iff.mp hcharacter
  split at hgiven
  · cases hgiven
  split at hgiven
  · cases hgiven
  · cases hgiven
    have hlength : s.toList.length = 1 := by
      rw [String.length_toList]
      omega
    obtain ⟨mark, hmark⟩ := List.length_eq_one_iff.mp hlength
    exact ⟨mark, String.toList_inj.mp (by rw [hmark]; simp)⟩

/-- All settings are accepted exactly when each of them is. -/
theorem ofData_eq_accepted_iff {data : Fields Value} {operator : Checked String} {keys : Checked (Fields PrimaryKey)}
    {settings : Settings} :
    ofData data operator keys = .accepted settings ↔
      required data "api_url" address = .accepted settings.apiUrl ∧
      operator = .accepted settings.defaultOperator ∧
      keys = .accepted settings.primaryKeys ∧
      optional data "rpc_prefix" Query.defaultProcedureMark text = .accepted settings.procedureMark ∧
      optional data "operator_separator" Filter.defaultSeparator character = .accepted settings.separator ∧
      optional data "id_field" Record.defaultIdField text = .accepted settings.idField := by
  simp only [ofData, seq_eq_accepted_iff, map_eq_accepted_iff]
  constructor
  · rintro ⟨_, _, ⟨_, _, ⟨_, _, ⟨_, _, ⟨_, _, ⟨_, hurl, rfl⟩, hoperator, rfl⟩, hkeys, rfl⟩, hmark, rfl⟩,
      hseparator, rfl⟩, hid, rfl⟩
    exact ⟨hurl, hoperator, hkeys, hmark, hseparator, hid⟩
  · rintro ⟨hurl, hoperator, hkeys, hmark, hseparator, hid⟩
    exact ⟨_, _, ⟨_, _, ⟨_, _, ⟨_, _, ⟨_, _, ⟨_, hurl, rfl⟩, hoperator, rfl⟩, hkeys, rfl⟩, hmark, rfl⟩,
      hseparator, rfl⟩, hid, rfl⟩

/-- Settings come from data that pass all checks. -/
theorem ofValue_eq_ok_iff {v : Value} {settings : Settings} :
    ofValue v = .ok settings ↔ ∃ data, v.fields? = some data ∧
      settingIn data "default_list_operator" Operator.eq.word operatorWord = .ok (.accepted settings.defaultOperator) ∧
      settingIn data "primary_keys" [] primaryKeysOf = .ok (.accepted settings.primaryKeys) ∧
      ofData data (.accepted settings.defaultOperator) (.accepted settings.primaryKeys) = .accepted settings := by
  rw [ofValue]
  cases v.fields? with
  | none => simp
  | some data =>
    simp only [Sequence.bind_eq_ok_iff, toExcept_eq_ok_iff]
    constructor
    · rintro ⟨operator, hoperator, keys, hkeys, hdata⟩
      obtain ⟨-, rfl, rfl, -⟩ := ofData_eq_accepted_iff.mp hdata
      exact ⟨data, rfl, hoperator, hkeys, hdata⟩
    · rintro ⟨_, heq, hoperator, hkeys, hdata⟩
      cases heq
      exact ⟨_, hoperator, _, hkeys, hdata⟩

theorem separator_of_ofValue {v : Value} {settings : Settings} (hsettings : ofValue v = .ok settings) :
    ∃ mark, settings.separator = String.singleton mark := by
  obtain ⟨data, -, -, -, hdata⟩ := ofValue_eq_ok_iff.mp hsettings
  obtain ⟨-, -, -, -, hseparator, -⟩ := ofData_eq_accepted_iff.mp hdata
  rcases optional_eq_accepted_iff.mp hseparator with ⟨-, hstandard⟩ | ⟨given, -, hgiven⟩
  · exact ⟨'@', hstandard.symm⟩
  · exact singleton_of_character hgiven

/-- Settings that passed their checks, and whose keys make up a registry, can be relied on. -/
theorem valid_of_registry {v : Value} {settings : Settings} {registry : Key.Registry String}
    (hsettings : ofValue v = .ok settings) (hregistry : settings.registry = .ok registry) : settings.Valid := by
  obtain ⟨data, -, -, -, hdata⟩ := ofValue_eq_ok_iff.mp hsettings
  obtain ⟨hurl, -⟩ := ofData_eq_accepted_iff.mp hdata
  obtain ⟨given, -, hgiven⟩ := required_eq_accepted_iff.mp hurl
  exact ⟨ne_empty_of_address hgiven, (registry_eq_ok_iff.mp hregistry).1, separator_of_ofValue hsettings⟩

theorem Valid.primaryKey_ne_nil {settings : Settings} (hvalid : settings.Valid) (resource : String) :
    settings.primaryKey resource ≠ [] := by
  rw [primaryKey]
  cases hkey : settings.primaryKeys.get? resource with
  | none => simp [Key.standard]
  | some key => exact hvalid.keys _ (Fields.mem_of_get? hkey)

/-- A service with one table whose key has two fields. -/
def tableConfig : Value :=
  .map [("api_url", .text "http://host/"), ("primary_keys", .map [("t", .list [.text "a", .text "b"])])]

def table : Settings := ⟨"http://host", "eq", [("t", ["a", "b"])], "rpc/", "@", "id"⟩

example : ofValue tableConfig = .ok table := by rfl

end TableGateway.Settings
