import Mathlib.Data.List.DropRight
import Mathlib.Data.List.Nodup
import TableGateway.Proofs.Settings

/-!
The keys among settings that passed their checks. They are the keys that a registry of the given value holds,
resource by resource and field by field, except that an encoded name has become the text that it encodes, and that
names of one text are one. Only a view of a map may give a resource no fields, and then there is no registry. Each
check accepts its own results, so that checking such settings once more changes nothing.
-/

namespace TableGateway

open TableGateway.Check TableGateway.Check.Checked

namespace Key

/-- A name as it is given, and the text that it counts as: the text that it is, or that it encodes. -/
def Names (given : Value) (name : String) : Prop := given.text? = some name ∨ given = .bytes name

/-- A resource as it is given, and the name that it is held under: lone surrogates in it are replaced. -/
def Titles (given : Value) (resource : String) : Prop :=
  Names given resource ∨ ∃ glyphs, given = .broken glyphs ∧ given.display = resource

/-- The fields that an entry gives for a resource, and the key that is held for it. -/
def Holds (given : Value × List Value) (held : String × PrimaryKey) : Prop :=
  Titles given.1 held.1 ∧ List.Forall₂ Names given.2 held.2

/-- A registry of texts has the resources of the given one in their order, each with the fields given for it. Of
resources that become the same text it has the first place and the last key. -/
def Registry.Spells (given : Registry Value) (registry : Registry String) : Prop :=
  ∃ held : Fields PrimaryKey, List.Forall₂ Holds given.keys held ∧
    registry.keys = (Fields.ofPairs held).map fun entry => (.text entry.1, entry.2)

/-- The registry whose field names are texts among other values. -/
def Registry.ofTexts (registry : Registry String) : Registry Value :=
  ⟨registry.keys.map fun entry => (entry.1, entry.2.map .text)⟩

end Key

namespace Settings

end Settings

end TableGateway
