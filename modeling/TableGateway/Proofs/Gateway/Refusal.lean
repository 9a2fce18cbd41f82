import TableGateway.Proofs.Gateway.Request
import TableGateway.Proofs.Key.Identifier

/-!
When an operation sends nothing. There is no identifier, there are several for a procedure, an identifier does
not spell the values of a compound key, or a filter key is malformed; the first identifier or key that is wrong
decides. An identifier that spells them, but deeper than a reader of JSON texts has room for, is reported as too deep.
Apart from these an operation sends one request, and what the client makes of it decides the outcome.
-/

namespace TableGateway

open TableGateway.Json TableGateway.Number TableGateway.Query TableGateway.Text
open TableGateway.Operation (Identifier)

/-- Why an operation sends no request. -/
inductive Refusal (g : Gateway) (resource : String) (op : Operation) : Failure → Prop where
  | noIdentifier (hids : op.ids? = some []) :
    Refusal g resource op (.unsupported (.text resource) (.text noIdentifier))
  | severalOnProcedure {ids : List Identifier} (hids : op.ids? = some ids) (hseveral : 2 ≤ ids.length)
      (hprocedure : g.settings.dialect.isProcedure resource) :
    Refusal g resource op (.unsupported (.text resource) (.text severalOnProcedure))
  /-- The first identifier that does not spell the values of a compound key. -/
  | identifier {before after : List Identifier} {id : Identifier} (hids : op.ids? = some (before ++ id :: after))
      (hone : before ++ after = [] ∨ g.settings.dialect.isProcedure resource = false)
      (hkey : Key.isCompound (g.primaryKey resource)) (hbefore : ∀ x ∈ before, x.Spells (g.primaryKey resource))
      (hid : ¬ id.Spells (g.primaryKey resource)) (hread : Json.read id.toValue.display ≠ .error .tooDeep) :
    Refusal g resource op (.identifier id.toValue ((g.primaryKey resource).map .text))
  /-- The first identifier that spells them too deep to be read. -/
  | tooDeep {before after : List Identifier} {id : Identifier} (hids : op.ids? = some (before ++ id :: after))
      (hone : before ++ after = [] ∨ g.settings.dialect.isProcedure resource = false)
      (hkey : Key.isCompound (g.primaryKey resource)) (hbefore : ∀ x ∈ before, x.Spells (g.primaryKey resource))
      (hid : id.SpellsBeyond (g.primaryKey resource)) :
    Refusal g resource op .tooDeep
  /-- The first malformed key of a filter. -/
  | filterKey {before after : Fields Value} {name : String} {v : Value} {mark : Char}
      (hfilter : op.filter? = some (before ++ (name, v) :: after))
      (hmark : g.settings.separator = String.singleton mark)
      (hbefore : ∀ field ∈ before, Filter.Key.WellFormed mark field.1) (hname : ¬ Filter.Key.WellFormed mark name) :
    Refusal g resource op (.filterKey (.text name) (.text g.settings.separator))

section

variable {g : Gateway} {resource : String}

end

end TableGateway
