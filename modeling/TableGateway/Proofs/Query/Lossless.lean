import TableGateway.Proofs.Form
import TableGateway.Proofs.Key.Identifier
import TableGateway.Proofs.Query.Encoding

/-!
What a query tells about the parameters that it was made of. Names and texts come back as they were, and a map
comes back from its JSON text, so that nothing in a name or value, not even the marks of a query, adds, removes or
splits a parameter. JSON has room for so many lists and maps inside each other; there is no query of a map that goes
deeper.
-/

namespace TableGateway.Query

open TableGateway.Json TableGateway.Text

/-- The parameters that are told by their queries: texts, and maps of JSON data that JSON has room for. -/
inductive Sendable : Value → Prop where
  | text (s : String) : Sendable (.text s)
  | map {fields : Fields Value} (hdata : Data false (.map fields)) (hdepth : Value.nesting (.map fields) ≤ depthLimit) :
    Sendable (.map fields)

/-- What arrives for a parameter tells what it was: a text is itself, and a map is read from its JSON text. -/
inductive Conveys : Value → String → Prop where
  | text (s : String) : Conveys (.text s) s
  | map {fields : Fields Value} {s : String} (hread : Json.read s = .ok (.map fields)) : Conveys (.map fields) s

theorem Sendable.data {v : Value} (hv : Sendable v) : Data false v := by
  cases hv with
  | text s => exact .text s
  | map hdata _ => exact hdata

theorem Sendable.nesting_le {v : Value} (hv : Sendable v) : v.nesting ≤ depthLimit := by
  cases hv with
  | text s => exact Nat.zero_le _
  | map _ hdepth => exact hdepth

theorem conveys_written {v : Value} (hv : Sendable v) : Conveys v (written v) := by
  cases hv with
  | text s => exact .text s
  | map hdata hdepth =>
    have hread := read_render spaced_legible hdata
    rw [if_pos hdepth] at hread
    exact .map hread

/-- A query is written in letters, digits and few marks, and its parameters are read back one by one, in their
order, each with its name and value. Different parameters of texts have different queries. -/
theorem encode_lossless {parameters : Fields Value} (hparameters : ∀ field ∈ parameters, Sendable field.2) :
    (∃ query texts, encode (underTexts parameters) = .ok query ∧ (∀ c ∈ query.toList, Form.isWritten c) ∧
        Form.decode? query = some texts ∧
        List.Forall₂ (fun field sent => field.1 = sent.1 ∧ Conveys field.2 sent.2) parameters texts) ∧
      ∀ fields fields' : Fields String,
        encode (underTexts (fields.mapValues .text)) = encode (underTexts (fields'.mapValues .text)) →
          fields = fields' := by
  constructor
  · have hquery := encode_of_data (fun field hfield => (hparameters field hfield).data)
      fun field hfield => (hparameters field hfield).nesting_le
    refine ⟨_, parameters.mapValues written, hquery, fun c hc => Form.isWritten_of_mem_encode hc,
      Form.decode?_encode _, ?_⟩
    rw [Fields.mapValues, List.forall₂_map_right_iff, List.forall₂_same]
    exact fun field hfield => ⟨rfl, conveys_written (hparameters field hfield)⟩
  · intro fields fields' hquery
    rw [encode_underTexts, encode_underTexts] at hquery
    exact Form.encode_injective (Except.ok.inj hquery)

/-- Parameters with the marks of a query, without any characters, and with maps. -/
def strangeParameters : Fields Value :=
  [("a&b=c", .text "+ %26é😀"), ("", .text ""), ("+", .map []),
    ("m", .map [("\"", .list [.null, .int (-7)]), ("", .map [("&", .bool true)])])]

theorem encode_lossless_strangeParameters :
    (∀ field ∈ strangeParameters, Sendable field.2) ∧
      ∃ query texts, encode (underTexts strangeParameters) = .ok query ∧ Form.decode? query = some texts ∧
        List.Forall₂ (fun field sent => field.1 = sent.1 ∧ Conveys field.2 sent.2) strangeParameters texts := by
  have hlist : Data false (.list [.null, .int (-7)]) := by
    apply Data.list
    simp only [List.forall_mem_cons, List.not_mem_nil, false_implies, implies_true, and_true]
    exact ⟨.null, .int (withinDigitLimit_of_lt_ten (by decide))⟩
  have hinner : Data false (.map [("&", .bool true)]) := .map (by decide) (by simpa using .bool true)
  have hmap : Data false (.map [("\"", .list [.null, .int (-7)]), ("", .map [("&", .bool true)])]) := by
    refine .map (by decide) ?_
    simp only [List.forall_mem_cons, List.not_mem_nil, false_implies, implies_true, and_true]
    exact ⟨hlist, hinner⟩
  have hempty : Data false (.map []) := .map (by decide) (by simp)
  have hsendable : ∀ field ∈ strangeParameters, Sendable field.2 := by
    simp only [strangeParameters, List.forall_mem_cons, List.not_mem_nil, false_implies, implies_true, and_true]
    exact ⟨.text _, .text _, .map hempty (by decide), .map hmap (by decide)⟩
  obtain ⟨query, texts, hquery, -, hread, htexts⟩ := (encode_lossless hsendable).1
  exact ⟨hsendable, query, texts, hquery, hread, htexts⟩

/-- A map in which lists lie 1200 deep. -/
def deepParameter : Value := .map [("a", Value.nestedLists 1199)]

theorem data_deepParameter : Data false deepParameter := by
  refine .map (by simp [Fields.names]) ?_
  simpa using data_nestedLists 1199

theorem sent_deepParameter : sent deepParameter = .error .tooDeep := by
  have hwritten : Json.write spaced deepParameter = .error .tooDeep := write_around_nestedLists spaced "a" (by decide)
  rw [deepParameter] at hwritten ⊢
  rw [sent, hwritten]
  rfl

/-- Not every map of JSON data has a query. -/
theorem deep_map_not_encoded :
    Data false deepParameter ∧ encode (underTexts [("p", deepParameter)]) = .error .tooDeep := by
  refine ⟨data_deepParameter, ?_⟩
  exact encode_eq_error (List.mem_singleton_self _) sent_deepParameter
    (List.forall_mem_singleton.mpr (.inr sent_deepParameter))

end TableGateway.Query
