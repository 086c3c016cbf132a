import TypedConfig.Validator.Basic

namespace TypedConfig.Validator

/-- The texts between the commas of a value. -/
def slots (value : String) : List String := (value.toList.splitOn ',').map String.ofList

/-- The texts that are converted of a value inside so many collections: the value, its slots but no
empty one at the end, or the slots that are not empty. -/
def leafTexts : Nat → String → List String
  | 0, value => [value]
  | 1, value => (slots value).dropLast ++ (slots value).getLast?.toList.filter (· ≠ "")
  | _ + 2, value => (slots value).filter (· ≠ "")

/-- Texts that stand one after the other from `start` on, with one character between them. Of their
places 64 bits are kept. -/
def placed (start : Nat) : List String → List (String × Nat)
  | [] => []
  | text :: rest => (text, start) :: placed ((start + (text.length + 1)) % UInt64.size) rest

/-- The texts that are converted of a value inside so many collections, each with its place. -/
def pieces : Nat → String → Nat → List (String × Nat)
  | 0, value, start => [(value, start)]
  | 1, value, start => placed start (leafTexts 1 value)
  | _ + 2, value, start => (placed start (slots value)).filter fun piece => piece.1 ≠ ""

end TypedConfig.Validator
