namespace TypedConfig.Standard

/-! ## Whole numbers -/

/-- The number that decimal digits stand for, after the digits of `before`. -/
def digitsFrom (before : Nat) (ds : List Char) : Nat :=
  ds.foldl (fun n d => 10 * n + (d.toNat - '0'.toNat)) before

/-- The number that decimal digits stand for. -/
def natural? (ds : List Char) : Option Nat :=
  if !ds.isEmpty && ds.all Char.isDigit then some (digitsFrom 0 ds) else none

/-- The whole number that a text stands for. -/
def integer? : List Char → Option Int
  | '-' :: ds => (natural? ds).map fun n : Nat => -(n : Int)
  | '+' :: ds => (natural? ds).map fun n : Nat => (n : Int)
  | ds => (natural? ds).map fun n : Nat => (n : Int)

/-- Whether a number can be kept in two's complement with so many bits. -/
def fitsBits (bits : Nat) (n : Int) : Bool :=
  -Int.pow 2 (bits - 1) ≤ n && n ≤ Int.pow 2 (bits - 1) - 1

/-- The whole number that a text stands for, if 64 bits can hold it. -/
def long? (cs : List Char) : Option Int := (integer? cs).filter (fitsBits 64)

/-! ## Numbers with a point and an exponent -/

/-- A text without the sign at its front. -/
def dropSign : List Char → List Char
  | '+' :: rest => rest
  | '-' :: rest => rest
  | cs => cs

/-- A text without one of the letters at its end that name a type. -/
def dropTypeLetter (cs : List Char) : List Char :=
  match cs.getLast? with
  | some c => if c ∈ ['f', 'F', 'd', 'D'] then cs.dropLast else cs
  | none => cs

/-- Digits, at least one, and nothing else. -/
def isDigits (cs : List Char) : Bool := !cs.isEmpty && cs.all Char.isDigit

/-- Nothing, or an exponent with an optional sign. -/
def isExponent : List Char → Bool
  | [] => true
  | c :: rest => (c = 'e' || c = 'E') && isDigits (dropSign rest)

/-- A number without a sign: digits with an optional point before, among or after them, and an
optional exponent. -/
def isMagnitude (cs : List Char) : Bool :=
  let whole := cs.takeWhile Char.isDigit
  match cs.dropWhile Char.isDigit with
  | '.' :: rest =>
    !(whole.isEmpty && (rest.takeWhile Char.isDigit).isEmpty) &&
      isExponent (rest.dropWhile Char.isDigit)
  | rest => !whole.isEmpty && isExponent rest

/-- A floating-point literal: after a sign, either one of the two names or a number, which may
have a sign of its own and a type letter at its end. -/
def isFloating (cs : List Char) : Bool :=
  let unsigned := dropSign cs
  unsigned = ['N', 'a', 'N'] || unsigned = ['I', 'n', 'f', 'i', 'n', 'i', 't', 'y'] ||
    isMagnitude (dropSign (dropTypeLetter unsigned))

end TypedConfig.Standard
