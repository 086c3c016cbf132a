import TypedConfig.Standard.Numeral

namespace TypedConfig.Toml

open Standard (dropSign)

/-- The value of a digit of base 16. -/
def hexValue? (c : Char) : Option Nat :=
  if c.isDigit then some (c.toNat - '0'.toNat)
  else if 'a' ≤ c && c ≤ 'f' then some (c.toNat - 'a'.toNat + 10)
  else if 'A' ≤ c && c ≤ 'F' then some (c.toNat - 'A'.toNat + 10)
  else none

def isHexDigit (c : Char) : Bool := (hexValue? c).isSome

/-- Every group but the last ends in a digit, and every group but the first begins with one. -/
def groupsFit (digit : Char → Bool) : List (List Char) → Bool
  | group :: next :: rest =>
    group.getLast?.any digit && next.head?.any digit && groupsFit digit (next :: rest)
  | _ => true

/-- Every underscore stands between two digits. -/
def underscoresFit (digit : Char → Bool) (cs : List Char) : Bool :=
  groupsFit digit (cs.splitOn '_')

/-- What follows the letter of a base: digits and underscores, or nothing. -/
def isBased (digit : Char → Bool) (cs : List Char) : Bool :=
  cs.all (fun c => digit c || c = '_') && underscoresFit digit cs

/-- A digit of base 10 or an underscore. -/
def isPlain (c : Char) : Bool := c.isDigit || c = '_'

/-- Digits, at least one, among underscores. -/
def isDigitRun (cs : List Char) : Bool := cs.all isPlain && cs.any Char.isDigit

/-- Digits of which the first is no zero, unless it is the only one. -/
def isWhole (cs : List Char) : Bool :=
  isDigitRun cs && (cs.countP Char.isDigit = 1 || cs.head? != some '0')

/-- A number's exponent, or nothing. -/
def isExponentPart : List Char → Bool
  | [] => true
  | c :: rest => (c = 'e' || c = 'E') && isDigitRun (dropSign rest)

/-- A number without a sign, with a point or an exponent, where underscores are not looked at. -/
def isFraction (cs : List Char) : Bool :=
  isWhole (cs.takeWhile isPlain) &&
    match cs.dropWhile isPlain with
    | '.' :: rest => isDigitRun (rest.takeWhile isPlain) && isExponentPart (rest.dropWhile isPlain)
    | rest => isExponentPart rest

def isDecimal (cs : List Char) : Bool :=
  let body := dropSign cs
  match body.dropWhile Char.isDigit with
  | [] => isWhole body
  | c :: rest =>
    if (c :: rest).any (· ∈ ['.', 'e', 'E']) then isFraction body && underscoresFit Char.isDigit cs
    else c = '_' && !(rest.contains ' ') && body.head? != some '0' && underscoresFit isHexDigit cs

/-- Whether characters pass for a number: in base 2, 8, 10 or 16, or one of the two names. No number
is evaluated, and so some texts pass that stand for none: the digits behind the letter of a base may
be missing, and of a whole number of base 10 in groups only the first group and the characters
beside the underscores count. -/
def isNumber (cs : List Char) : Bool :=
  match cs with
  | '0' :: 'x' :: rest => isBased isHexDigit rest
  | '0' :: 'o' :: rest => isBased (fun c => '0' ≤ c && c ≤ '7') rest
  | '0' :: 'b' :: rest => isBased (fun c => c = '0' || c = '1') rest
  | _ => dropSign cs = ['i', 'n', 'f'] || dropSign cs = ['n', 'a', 'n'] || isDecimal cs

end TypedConfig.Toml
