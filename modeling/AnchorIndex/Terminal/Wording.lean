import AnchorIndex.Datum.Basic

/-!
# Wording of messages
-/

namespace AnchorIndex.Terminal

/-- The number one, or the truth, which counts as one. -/
def isOne : Datum → Bool
  | .int n => n == 1
  | .real x => x == 1.0
  | .bool b => b
  | _ => false

/-- A number with its noun, which is in the plural unless the number is one. -/
def withNoun (number : Datum) (singular : String) (plural : Option String) : String :=
  let many := (plural.filter (· != "")).getD (singular ++ "s")
  number.display ++ " " ++ if isOne number then singular else many

/-- A count with its noun. -/
def counted (count : Int) (singular : String) (plural : Option String) : String :=
  withNoun (.int count) singular plural

end AnchorIndex.Terminal
