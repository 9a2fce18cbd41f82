import TableGateway.Operation.Parameters
import TableGateway.Proofs.Check.Checked
import TableGateway.Proofs.Query.Several
import TableGateway.Proofs.Sequence
import TableGateway.Proofs.Text.Case

/-!
The direction of a listing, which is read in two places. The order of a query takes a text that is the name of a
direction as it stands, and otherwise tries its upper case. The parameters of a listing put the text in upper case
before they read it in the same way, so that some texts are put in upper case twice. Both take the same texts: those
whose upper case is a name. Not all of these are in ASCII.
-/

namespace TableGateway.Query

open TableGateway.Check TableGateway.Text

theorem ofName?_eq_some_iff {name : String} {direction : Direction} :
    Direction.ofName? name = some direction ↔ name = direction.name := by
  constructor
  · intro hfound
    have hname := List.find?_some hfound
    exact (beq_iff_eq.mp hname).symm
  · rintro rfl
    cases direction <;> rfl

/-- The names of the directions are in upper case, and in ASCII. -/
theorem upper_name (direction : Direction) : upper direction.name.toList = direction.name.toList := by
  cases direction <;> rfl

theorem ascii_name (direction : Direction) : Ascii direction.name := by
  cases direction <;> decide

theorem word_eq_lower (direction : Direction) : direction.word = String.ofList (lower direction.name.toList) := by
  cases direction <;> rfl

/-- A text that is a name as it stands is so in upper case too. -/
theorem directionOfText?_eq (s : String) :
    directionOfText? s = Direction.ofName? (String.ofList (upper s.toList)) := by
  rw [directionOfText?]
  cases hexact : Direction.ofName? s with
  | none => rfl
  | some direction =>
    obtain rfl := ofName?_eq_some_iff.mp hexact
    rw [upper_name, String.ofList_toList, hexact]
    rfl

/-- The parameters of an order by a field. -/
def sortGiven (field : String) (direction : Value) : Value := .map [("field", .text field), ("order", direction)]

section

variable {s field : String} {direction : Direction}

theorem directionOfText?_eq_some_iff :
    directionOfText? s = some direction ↔ upper s.toList = direction.name.toList := by
  rw [directionOfText?_eq, ofName?_eq_some_iff, ← String.toList_inj, String.toList_ofList]

/-- Upper case twice leads to a name only if upper case once does. -/
theorem upper_upper_eq_name_iff :
    upper (upper s.toList) = direction.name.toList ↔ upper s.toList = direction.name.toList := by
  constructor
  · intro htwice
    have hascii : ∀ c ∈ upper (upper s.toList), c.toNat < 0x80 := htwice ▸ ascii_name direction
    rwa [upper_upper_of_ascii hascii] at htwice
  · intro honce
    rw [honce]
    exact upper_name direction

/-- The parameters of an order take the directions that the upper case of a text names. -/
theorem direction_eq_accepted_iff :
    Operation.direction (.text s) = .accepted direction ↔ upper s.toList = direction.name.toList := by
  rw [← upper_upper_eq_name_iff, ← String.toList_ofList (l := upper s.toList), ← directionOfText?_eq_some_iff]
  cases hread : directionOfText? (String.ofList (upper s.toList)) <;>
    simp [Operation.direction, Value.text?, hread, Checked.fail]

/-- The order of a query takes the same ones. -/
theorem directionOf_eq_ok_iff : directionOf (.text s) = .ok direction ↔ upper s.toList = direction.name.toList := by
  rw [← directionOfText?_eq_some_iff]
  cases hread : directionOfText? s <;> simp [directionOf, Value.memberOf, Value.text?, hread]

theorem sort_of_direction {v : Value} {spec : SortBy} :
    Operation.sort (sortGiven field v) = .accepted spec ↔
      spec.field = field ∧ Operation.direction v = .accepted spec.direction := by
  constructor
  · intro hspec
    obtain ⟨_, direction, hmk, hdirection, rfl⟩ := Checked.seq_eq_accepted_iff.mp hspec
    obtain ⟨name, hname, rfl⟩ := Checked.map_eq_accepted_iff.mp hmk
    have htext : text (.text field) = .accepted name := (optional_of_get? rfl).mp hname
    cases htext
    exact ⟨rfl, (optional_of_get? rfl).mp hdirection⟩
  · rintro ⟨rfl, hdirection⟩
    refine Checked.seq_eq_accepted_iff.mpr ⟨.mk spec.field, spec.direction, ?_, ?_, rfl⟩
    · exact Checked.map_eq_accepted_iff.mpr ⟨spec.field, (optional_of_get? rfl).mpr rfl, rfl⟩
    · exact (optional_of_get? rfl).mpr hdirection

theorem sort_eq_accepted_iff {spec : SortBy} :
    Operation.sort (sortGiven field (.text s)) = .accepted spec ↔
      spec.field = field ∧ upper s.toList = spec.direction.name.toList := by
  rw [sort_of_direction, direction_eq_accepted_iff]

theorem orderBy_eq_ok_iff {d : Dialect} {key : PrimaryKey} {v : Value} {order : String} :
    d.orderBy field v key = .ok order ↔
      ∃ direction, directionOf v = .ok direction ∧ d.order ⟨field, direction⟩ key = order := by
  rw [Dialect.orderBy, Sequence.bind_eq_ok_iff]
  simp only [pure, Except.pure, Except.ok.injEq]

/-- The text of an order, in the lower case of the name of its direction. -/
theorem order_eq {d : Dialect} {key : PrimaryKey} {spec : SortBy}
    (hspelt : upper s.toList = spec.direction.name.toList) :
    d.order spec key =
      if spec.field = d.idField then
        ",".intercalate (key.map fun name => name ++ "." ++ String.ofList (lower (upper s.toList)))
      else spec.field ++ "." ++ String.ofList (lower (upper s.toList)) := by
  rw [hspelt, ← word_eq_lower, Dialect.order]

theorem exists_name_iff : (∃ direction : Direction, upper s.toList = direction.name.toList) ↔
    upper s.toList = "ASC".toList ∨ upper s.toList = "DESC".toList := by
  constructor
  · rintro ⟨direction, hspelt⟩
    cases direction
    · exact .inl hspelt
    · exact .inr hspelt
  · rintro (hascending | hdescending)
    · exact ⟨.ascending, hascending⟩
    · exact ⟨.descending, hdescending⟩

end

section

variable {d : Dialect} {field s : String} {key : PrimaryKey}

theorem exists_sort_iff : (∃ spec, Operation.sort (sortGiven field (.text s)) = .accepted spec) ↔
    ∃ direction : Direction, upper s.toList = direction.name.toList := by
  constructor
  · rintro ⟨spec, hspec⟩
    exact ⟨spec.direction, (sort_eq_accepted_iff.mp hspec).2⟩
  · rintro ⟨direction, hspelt⟩
    exact ⟨⟨field, direction⟩, sort_eq_accepted_iff.mpr ⟨rfl, hspelt⟩⟩

theorem exists_orderBy_iff : (∃ order, d.orderBy field (.text s) key = .ok order) ↔
    ∃ direction : Direction, upper s.toList = direction.name.toList := by
  constructor
  · rintro ⟨order, horder⟩
    obtain ⟨direction, hread, -⟩ := orderBy_eq_ok_iff.mp horder
    exact ⟨direction, directionOf_eq_ok_iff.mp hread⟩
  · rintro ⟨direction, hspelt⟩
    exact ⟨_, orderBy_eq_ok_iff.mpr ⟨direction, directionOf_eq_ok_iff.mpr hspelt, rfl⟩⟩

/-- The only failure of an order by a text is that it names no direction. -/
theorem orderBy_error (hfails : ¬ ∃ order, d.orderBy field (.text s) key = .ok order) :
    d.orderBy field (.text s) key = .error (.unknownMember (.text s) "SortOrder") := by
  cases hread : directionOfText? s with
  | none => simp [Dialect.orderBy, directionOf, Value.memberOf, Value.text?, hread, bind, Except.bind]
  | some direction =>
    have hspelt := directionOfText?_eq_some_iff.mp hread
    exact absurd (exists_orderBy_iff.mpr ⟨direction, hspelt⟩) hfails

/-- The order that accepted parameters stand for is the one by their field and the given text. -/
theorem orderBy_of_sort {spec : SortBy} (hspec : Operation.sort (sortGiven field (.text s)) = .accepted spec) :
    d.orderBy field (.text s) key = .ok (d.order spec key) := by
  obtain ⟨rfl, hspelt⟩ := sort_eq_accepted_iff.mp hspec
  exact orderBy_eq_ok_iff.mpr ⟨spec.direction, directionOf_eq_ok_iff.mpr hspelt, rfl⟩

/-- Texts with lone surrogates are in the upper case of no name. -/
theorem broken_refused (glyphs : List Glyph) :
    (¬ ∃ spec, Operation.sort (sortGiven field (.broken glyphs)) = .accepted spec) ∧
      ¬ ∃ order, d.orderBy field (.broken glyphs) key = .ok order := by
  constructor
  · rintro ⟨spec, hspec⟩
    cases (sort_of_direction.mp hspec).2
  · rintro ⟨order, horder⟩
    obtain ⟨direction, hread, -⟩ := orderBy_eq_ok_iff.mp horder
    cases hread

end

/-- The parameters of a listing and the order of a query read the direction of an order alike: both take the texts whose
upper case names one, and make the same order of them. -/
theorem directions_read_alike (d : Dialect) (field : String) (key : PrimaryKey) :
    (∀ s : String,
      ((∃ spec, Operation.sort (sortGiven field (.text s)) = .accepted spec) ↔
        ∃ order, d.orderBy field (.text s) key = .ok order) ∧
      ((∃ order, d.orderBy field (.text s) key = .ok order) ↔
        upper s.toList = "ASC".toList ∨ upper s.toList = "DESC".toList) ∧
      ((¬ ∃ order, d.orderBy field (.text s) key = .ok order) →
        d.orderBy field (.text s) key = .error (.unknownMember (.text s) "SortOrder")) ∧
      ∀ spec, Operation.sort (sortGiven field (.text s)) = .accepted spec →
        d.orderBy field (.text s) key = .ok (d.order spec key) ∧
        d.orderBy spec.field (.text spec.direction.name) key = .ok (d.order spec key) ∧
        d.order spec key =
          if field = d.idField then
            ",".intercalate (key.map fun name => name ++ "." ++ String.ofList (lower (upper s.toList)))
          else field ++ "." ++ String.ofList (lower (upper s.toList))) ∧
    ∀ glyphs : List Glyph,
      (¬ ∃ spec, Operation.sort (sortGiven field (.broken glyphs)) = .accepted spec) ∧
        ¬ ∃ order, d.orderBy field (.broken glyphs) key = .ok order := by
  refine ⟨fun s => ⟨?_, ?_, orderBy_error, fun spec hspec => ⟨orderBy_of_sort hspec, ?_, ?_⟩⟩, broken_refused⟩
  · rw [exists_sort_iff, exists_orderBy_iff]
  · rw [exists_orderBy_iff, exists_name_iff]
  · apply orderBy_of_sort
    exact sort_eq_accepted_iff.mpr ⟨rfl, upper_name spec.direction⟩
  · obtain ⟨rfl, hspelt⟩ := sort_eq_accepted_iff.mp hspec
    exact order_eq hspelt

/-- The long s is an S in upper case, the sharp s is two of them. -/
theorem directions_read_alike_longS :
    Operation.sort (sortGiven "id" (.text "deſc")) = .accepted ⟨"id", .descending⟩ ∧
      usual.orderBy "id" (.text "deſc") ["a", "b"] = .ok "a.desc,b.desc" ∧
      usual.orderBy "id" (.text "aßc") ["a", "b"] = .error (.unknownMember (.text "aßc") "SortOrder") := by
  obtain ⟨hread, -⟩ := directions_read_alike usual "id" ["a", "b"]
  have hlong : upper "deſc".toList = "DESC".toList := by decide +kernel
  have hsharp : ¬ (upper "aßc".toList = "ASC".toList ∨ upper "aßc".toList = "DESC".toList) := by decide +kernel
  have hspec : Operation.sort (sortGiven "id" (.text "deſc")) = .accepted ⟨"id", .descending⟩ :=
    sort_eq_accepted_iff.mpr ⟨rfl, hlong⟩
  obtain ⟨-, -, -, haccepted⟩ := hread "deſc"
  obtain ⟨horder, -, htext⟩ := haccepted _ hspec
  obtain ⟨-, hnamed, hrefused, -⟩ := hread "aßc"
  refine ⟨hspec, horder.trans (congrArg Except.ok ?_), hrefused fun hok => hsharp (hnamed.mp hok)⟩
  rw [htext, hlong]
  decide +kernel

end TableGateway.Query
