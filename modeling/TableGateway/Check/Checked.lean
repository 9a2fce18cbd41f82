import TableGateway.Failure

/-!
The outcome of checking data: a value, or everything that is wrong with it. Checks of several fields
are combined so that the issues of all of them are reported, in the order of the fields.
-/

namespace TableGateway.Check

/-- A value, or the issues for which the data were refused. -/
inductive Checked (α : Type) where
  | accepted (value : α)
  | refused (issues : List Issue)

namespace Checked

variable {α β : Type}

instance : Functor Checked where
  map f
    | .accepted value => .accepted (f value)
    | .refused issues => .refused issues

/-- Two checks of separate data: the issues of both are kept. -/
def apply (first : Checked (α → β)) (second : Checked α) : Checked β :=
  match first, second with
  | .accepted f, .accepted value => .accepted (f value)
  | .accepted _, .refused issues => .refused issues
  | .refused issues, .accepted _ => .refused issues
  | .refused issues, .refused more => .refused (issues ++ more)

instance : Applicative Checked where
  pure := .accepted
  seq first second := first.apply (second ())

def andThen (first : Checked α) (next : α → Checked β) : Checked β :=
  match first with
  | .accepted value => next value
  | .refused issues => .refused issues

def fail (problem : Problem) : Checked α := .refused [⟨[], problem⟩]

/-- The same outcome seen from one level further out. -/
def under (step : Step) : Checked α → Checked α
  | .accepted value => .accepted value
  | .refused issues => .refused (issues.map (·.under step))

/-- The checked members of a list, whose issues tell by themselves where they stand. -/
def each (check : α → Checked β) : List α → Checked (List β)
  | [] => .accepted []
  | v :: rest => apply ((· :: ·) <$> check v) (each check rest)

/-- The checked items of a list, each under its place from `place` on. -/
def items (check : α → Checked β) (place : Int) : List α → Checked (List β)
  | [] => .accepted []
  | v :: rest =>
    apply ((· :: ·) <$> (check v).under (.index place)) (items check (place + 1) rest)

def toExcept : Checked α → Except Failure α
  | .accepted value => .ok value
  | .refused issues => .error (.refused issues)

end Checked

def required {α : Type} (data : Fields Value) (name : String) (check : Value → Checked α) :
    Checked α :=
  ((data.get? name).elim (.fail .missing) check).under (.field name)

def optional {α : Type} (data : Fields Value) (name : String) (standard : α)
    (check : Value → Checked α) : Checked α :=
  match data.get? name with
  | none => .accepted standard
  | some v => (check v).under (.field name)

/-- A field under a second name, which is looked up first. -/
def renamed {α : Type} (data : Fields Value) (preferred name : String) (standard : α)
    (check : Value → Checked α) : Checked α :=
  match data.get? preferred with
  | none => optional data name standard check
  | some v => (check v).under (.field preferred)

end TableGateway.Check
