import TypedConfig.Signature.Reader

namespace TypedConfig

inductive Signature.Token where
  | name (text : String)
  | opening
  | comma
  | closing
  deriving DecidableEq, Repr

def Signature.Token.chars : Signature.Token → List Char
  | .name text => text.toList
  | .opening => ['<']
  | .comma => [',']
  | .closing => ['>']

namespace Descriptor

open Signature (Token)

mutual

/-- The tokens of a descriptor, in order. -/
def tokens : Descriptor → List Token
  | ⟨name, []⟩ => [.name name]
  | ⟨name, first :: rest⟩ =>
    .name name :: .opening :: (tokens first ++ tokensRest rest ++ [.closing])

/-- The tokens of the arguments after the first, each behind its comma. -/
def tokensRest : List Descriptor → List Token
  | [] => []
  | d :: ds => .comma :: (tokens d ++ tokensRest ds)

end

/-- Whether a text may be the name of a type in a signature. -/
def IsName (name : String) : Prop :=
  name ≠ "" ∧ ∀ c ∈ name.toList, Signature.isNameChar c = true

instance : DecidablePred IsName := fun name =>
  decidable_of_iff (name ≠ "" ∧ name.toList.all Signature.isNameChar = true)
    (and_congr_right fun _ => List.all_eq_true)

mutual

/-- Every name of a descriptor may stand in a signature. -/
def WellNamed : Descriptor → Prop
  | ⟨name, arguments⟩ => IsName name ∧ AllWellNamed arguments

/-- Every name of some descriptors may stand in a signature. -/
def AllWellNamed : List Descriptor → Prop
  | [] => True
  | d :: ds => WellNamed d ∧ AllWellNamed ds

end

end Descriptor

namespace Signature

/-- A text is made of tokens, with blanks before, between and after them. -/
inductive Spaced : List Token → List Char → Prop where
  | done {blanks : List Char} (blank : ∀ c ∈ blanks, Text.isBlank c = true) : Spaced [] blanks
  | token {blanks : List Char} {token : Token} {tokens : List Token} {rest : List Char}
      (blank : ∀ c ∈ blanks, Text.isBlank c = true) (next : Spaced tokens rest) :
      Spaced (token :: tokens) (blanks ++ token.chars ++ rest)

/-- A text spells a descriptor. -/
def IsLayout (text : List Char) (d : Descriptor) : Prop :=
  d.WellNamed ∧ Spaced d.tokens text

end Signature

end TypedConfig
