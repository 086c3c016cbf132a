import TypedConfig.Text.Basic

namespace TypedConfig

/-- A type as a signature names it: `name<argument, …>`, or the bare name. An array has no
arguments; its name is the element's name followed by brackets. -/
structure Descriptor where
  name : String
  arguments : List Descriptor
  deriving Repr, Inhabited

namespace Descriptor

abbrev simple (name : String) : Descriptor := ⟨name, []⟩

mutual

/-- Equality is decided by names and arguments, from the left. -/
def decEq : (a b : Descriptor) → Decidable (a = b)
  | ⟨n, xs⟩, ⟨m, ys⟩ =>
    if h : n = m then
      match decEqAll xs ys with
      | isTrue hs => isTrue (by rw [h, hs])
      | isFalse hs => isFalse (by intro e; cases e; exact hs rfl)
    else isFalse (by intro e; cases e; exact h rfl)

def decEqAll : (a b : List Descriptor) → Decidable (a = b)
  | [], [] => isTrue rfl
  | [], _ :: _ => isFalse (by simp)
  | _ :: _, [] => isFalse (by simp)
  | x :: xs, y :: ys =>
    match decEq x y, decEqAll xs ys with
    | isTrue h, isTrue hs => isTrue (by rw [h, hs])
    | isFalse h, _ => isFalse (by intro e; cases e; exact h rfl)
    | _, isFalse hs => isFalse (by intro e; cases e; exact hs rfl)

end

instance : DecidableEq Descriptor := decEq

def arity (d : Descriptor) : Nat := d.arguments.length

def isGeneric (d : Descriptor) : Bool := !d.arguments.isEmpty

/-- The element's name, where a name is one of an array: brackets at the end after at least one
character. Blanks before the brackets belong to neither. -/
def elementName? (name : String) : Option String :=
  match name.toList.reverse with
  | ']' :: '[' :: c :: rest => some (String.ofList (Text.dropBlankEnd (c :: rest).reverse))
  | _ => none

/-- The element type of an array. -/
def element? (d : Descriptor) : Option Descriptor :=
  if d.arguments.isEmpty then (elementName? d.name).map simple else none

/-- Whether a descriptor stands for an array. -/
def isArray (d : Descriptor) : Bool := d.element?.isSome

/-- How many brackets stand at the end of a name, and the characters of the name under them. Both
names are read from their end; with `skip`, blanks at the end are passed over first. -/
def peelBackward (skip : Bool) : List Char → Nat × List Char
  | [] => (0, [])
  | c :: rest =>
    if skip && Text.isBlank c then peelBackward skip rest
    else if c = ']' then
      match rest with
      | '[' :: d :: more =>
        let (depth, base) := peelBackward true (d :: more)
        (depth + 1, base)
      | _ => (0, c :: rest)
    else (0, c :: rest)

/-- How many arrays a name stands for, one inside the other, and the innermost element's name. -/
def peel (name : String) : Nat × String :=
  let (depth, base) := peelBackward false name.toList.reverse
  (depth, String.ofList base.reverse)

/-! ## Texts -/

mutual

/-- The canonical signature: no blanks but the one after each comma. -/
def render : Descriptor → String
  | ⟨name, []⟩ => name
  | ⟨name, first :: rest⟩ => name ++ "<" ++ render first ++ renderRest rest ++ ">"

/-- The arguments after the first, each behind its comma. -/
def renderRest : List Descriptor → String
  | [] => ""
  | d :: ds => ", " ++ render d ++ renderRest ds

end

mutual

/-- The tree: a node in parentheses with its name and then its arguments' trees. -/
def tree : Descriptor → String
  | ⟨name, arguments⟩ => "(type " ++ name ++ treeRest arguments ++ ")"

def treeRest : List Descriptor → String
  | [] => ""
  | d :: ds => " " ++ tree d ++ treeRest ds

end

instance : ToString Descriptor := ⟨render⟩

end Descriptor

end TypedConfig
