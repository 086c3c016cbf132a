import TypedConfig.Proofs.Marking
import TypedConfig.Validator.Leaves

/-!
Collections inside collections. A value is cut at its commas by the outermost collection, and what
lies inside cannot cut any further: it finds the whole element again, or nothing if the element is
empty. So a validator converts one row of texts, and all that counts of its layers is whether there
is none, one, or more than one collection.
-/
namespace TypedConfig

/-! ## Slots -/

namespace Validator

section
variable {marking : Marking} {start : Nat}

end

/-! ## Pieces -/

section
variable {marking : Marking} {context : Context} {type text : String} {place : Nat}
  {pieces more : List (String × Nat)} {before after : History} {first report : Report}

end

/-! ## Validators -/

section
variable {marking : Marking} {context : Context} {type : String}

end

/-- One collection has the empty text in front converted, two do not. -/
example : leafTexts 1 ",1," = ["", "1"] ∧ leafTexts 2 ",1," = ["1"] := by decide

end Validator

end TypedConfig
