import Mathlib.Algebra.GroupWithZero.Nat
import TypedConfig.Standard.Numeral

namespace TypedConfig.Standard

inductive Sign : List Char → Prop where
  | none : Sign []
  | plus : Sign ['+']
  | minus : Sign ['-']

/-- Digits, perhaps none. -/
def DigitRow (cs : List Char) : Prop := ∀ c ∈ cs, c.isDigit = true

def Digits (cs : List Char) : Prop := cs ≠ [] ∧ DigitRow cs

/-- Digits, with an optional point before, among or after them. -/
inductive Mantissa : List Char → Prop where
  | whole {ds : List Char} (digits : Digits ds) : Mantissa ds
  | pointed {ds fs : List Char} (digits : Digits ds) (fraction : DigitRow fs) :
      Mantissa (ds ++ '.' :: fs)
  | fraction {fs : List Char} (fraction : Digits fs) : Mantissa ('.' :: fs)

inductive Exponent : List Char → Prop where
  | none : Exponent []
  | some {e : Char} {sign ds : List Char} (letter : e = 'e' ∨ e = 'E') (signed : Sign sign)
      (digits : Digits ds) : Exponent (e :: (sign ++ ds))

/-- An optional letter for the type. -/
inductive TypeLetter : List Char → Prop where
  | none : TypeLetter []
  | some {c : Char} (letter : c ∈ ['f', 'F', 'd', 'D']) : TypeLetter [c]

/-- A number without a sign. -/
inductive Unsigned : List Char → Prop where
  | intro {mantissa exponent letter : List Char} (m : Mantissa mantissa) (e : Exponent exponent)
      (l : TypeLetter letter) : Unsigned (mantissa ++ exponent ++ letter)

/-- A floating-point literal with at most one sign. -/
inductive Literal : List Char → Prop where
  | nan {sign : List Char} (signed : Sign sign) : Literal (sign ++ "NaN".toList)
  | infinity {sign : List Char} (signed : Sign sign) : Literal (sign ++ "Infinity".toList)
  | number {sign body : List Char} (signed : Sign sign) (unsigned : Unsigned body) :
      Literal (sign ++ body)

/-- A number with a second sign between its sign and its digits. -/
inductive DoublySigned : List Char → Prop where
  | intro {first second : Char} {body : List Char} (sign : first = '+' ∨ first = '-')
      (again : second = '+' ∨ second = '-') (unsigned : Unsigned body) :
      DoublySigned (first :: second :: body)

/-- What digits stand for: each counts for ten to the number of the digits behind it. -/
def placeValue : List Char → Nat
  | [] => 0
  | d :: ds => (d.toNat - '0'.toNat) * 10 ^ ds.length + placeValue ds

/-- A whole number's written form, and the number. -/
inductive Denotes : List Char → Int → Prop where
  | plain {ds : List Char} (digits : Digits ds) : Denotes ds (placeValue ds)
  | plus {ds : List Char} (digits : Digits ds) : Denotes ('+' :: ds) (placeValue ds)
  | minus {ds : List Char} (digits : Digits ds) : Denotes ('-' :: ds) (-(placeValue ds : Int))

end TypedConfig.Standard
