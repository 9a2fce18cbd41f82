/-!
Case mappings as tables: runs of characters that move by one distance, and single characters that
become several.
-/

namespace TableGateway.Text

/-- Every `step`-th code point from `first` to `last` moves by `distance`. -/
structure CaseRun where
  first : Nat
  last : Nat
  step : Nat
  distance : Int

def CaseRun.covers (run : CaseRun) (c : Char) : Bool :=
  run.first ≤ c.toNat && c.toNat ≤ run.last && (c.toNat - run.first) % run.step == 0

/-- A full case mapping: `runs` hold the characters with one image, `expansions` those with several. -/
structure CaseMapping where
  runs : List CaseRun
  expansions : List (Nat × List Nat)

/-- The image of one character; what no table names stays. -/
def CaseMapping.image (mapping : CaseMapping) (c : Char) : List Char :=
  match mapping.expansions.lookup c.toNat with
  | some codes => codes.map Char.ofNat
  | none =>
    match mapping.runs.find? (·.covers c) with
    | some run => [Char.ofNat (Int.toNat (c.toNat + run.distance))]
    | none => [c]

end TableGateway.Text
