import TypedConfig.Standard.Numeral

namespace TypedConfig.Toml

/-- The number that so many digits at the front stand for, and what follows them, which begins
with no digit. -/
def cutField (width : Nat) (cs : List Char) : Option (Nat × List Char) := do
  let digits := cs.takeWhile Char.isDigit
  if digits.length = width then
    return (Standard.digitsFrom 0 digits, cs.dropWhile Char.isDigit)
  else none

/-- A field of two digits that has a bound, and what follows it. -/
def dropBounded (bound : Nat) (cs : List Char) : Option (List Char) := do
  let (n, rest) ← cutField 2 cs
  if n ≤ bound then return rest else none

/-- Whether a year has a day more than others. -/
def isLeap (year : Nat) : Bool := year % 4 = 0 && (year % 100 != 0 || year % 400 = 0)

def daysIn (year month : Nat) : Nat :=
  if month = 2 then if isLeap year then 29 else 28
  else if month ∈ [4, 6, 9, 11] then 30
  else 31

/-- What follows a day: year, month and day of the month. -/
def dropDay (cs : List Char) : Option (List Char) := do
  let (year, '-' :: rest) ← cutField 4 cs | none
  let (month, '-' :: rest) ← cutField 2 rest | none
  let (day, rest) ← cutField 2 rest
  if 1 ≤ month && month ≤ 12 && 1 ≤ day && day ≤ daysIn year month then return rest else none

/-- What follows a part of a second, if there is one. -/
def dropPart : List Char → Option (List Char)
  | '.' :: c :: rest => if c.isDigit then some (rest.dropWhile Char.isDigit) else none
  | ['.'] => none
  | cs => some cs

/-- What follows the seconds of a time, if there are any; a minute may have 61 of them. -/
def dropSeconds : List Char → Option (List Char)
  | ':' :: rest => (dropBounded 60 rest).bind dropPart
  | cs => some cs

/-- What follows hours and minutes. -/
def dropMinutes (cs : List Char) : Option (List Char) := do
  let ':' :: rest ← dropBounded 23 cs | none
  dropBounded 59 rest

def dropTime (cs : List Char) : Option (List Char) := (dropMinutes cs).bind dropSeconds

/-- The distance to the time at the meridian, or nothing. -/
def isOffset : List Char → Bool
  | [] | ['Z'] | ['z'] => true
  | '+' :: rest | '-' :: rest => dropMinutes rest = some []
  | _ => false

/-- Whether characters are a day, a time of day, or both with a letter or a space between. -/
def isMoment (cs : List Char) : Bool :=
  match dropDay cs with
  | none => dropTime cs = some []
  | some [] => true
  | some (c :: rest) => c ∈ ['T', 't', ' '] && (dropTime rest).any isOffset

end TypedConfig.Toml
