import TypedConfig.Text.Quoted

namespace TypedConfig

/-- A JSON value. `number m k` is `m` divided by ten to the power `k`, and the fields of an object
stand in the order in which they are written. -/
inductive Json where
  | null
  | boolean (value : Bool)
  | number (mantissa : Int) (scale : Nat)
  | string (text : String)
  | array (items : List Json)
  | object (fields : List (String × Json))
  deriving Repr, Inhabited

namespace Json

abbrev natural (n : Nat) : Json := .number n 0

/-- One character inside a JSON string: the quote, the backslash and the controls are escaped,
everything else stands for itself. -/
def escapeChar (c : Char) : List Char :=
  if c = '"' then ['\\', '"']
  else if c = '\\' then ['\\', '\\']
  else if c = '\n' then ['\\', 'n']
  else if c = '\r' then ['\\', 'r']
  else if c = '\t' then ['\\', 't']
  else if c = '\x08' then ['\\', 'b']
  else if c = '\x0c' then ['\\', 'f']
  else if c.toNat < 0x20 then
    ['\\', 'u', '0', '0', Text.hexDigit (c.toNat / 16), Text.hexDigit (c.toNat % 16)]
  else [c]

def literal (s : String) : String :=
  String.ofList ('"' :: s.toList.flatMap escapeChar ++ ['"'])

def numberText (mantissa : Int) (scale : Nat) : String :=
  if scale = 0 then toString mantissa else toString mantissa ++ "e-" ++ toString scale

mutual

def compact : Json → String
  | .null => "null"
  | .boolean true => "true"
  | .boolean false => "false"
  | .number mantissa scale => numberText mantissa scale
  | .string text => literal text
  | .array items => "[" ++ compactItems items ++ "]"
  | .object fields => "\x7b" ++ compactFields fields ++ "\x7d"

def compactItems : List Json → String
  | [] => ""
  | [item] => compact item
  | item :: next :: rest => compact item ++ "," ++ compactItems (next :: rest)

/-- Fields between commas, each a name and a value. -/
def compactFields : List (String × Json) → String
  | [] => ""
  | [(name, value)] => literal name ++ ":" ++ compact value
  | (name, value) :: next :: rest =>
    literal name ++ ":" ++ compact value ++ "," ++ compactFields (next :: rest)

end

/-- The start of a line at a depth: two spaces for each level. -/
def newLine (depth : Nat) : String :=
  String.ofList ('\n' :: List.replicate (2 * depth) ' ')

mutual

/-- The indented text of a value that stands at a depth. -/
def indented (depth : Nat) : Json → String
  | .null => "null"
  | .boolean true => "true"
  | .boolean false => "false"
  | .number mantissa scale => numberText mantissa scale
  | .string text => literal text
  | .array [] => "[]"
  | .array (item :: rest) =>
    "[" ++ newLine (depth + 1) ++ indented (depth + 1) item ++ indentedItems (depth + 1) rest ++
      newLine depth ++ "]"
  | .object [] => "\x7b\x7d"
  | .object ((name, value) :: rest) =>
    "\x7b" ++ newLine (depth + 1) ++ literal name ++ ": " ++ indented (depth + 1) value ++
      indentedFields (depth + 1) rest ++ newLine depth ++ "\x7d"

/-- The items after the first, each on a line of its own. -/
def indentedItems (depth : Nat) : List Json → String
  | [] => ""
  | item :: rest => "," ++ newLine depth ++ indented depth item ++ indentedItems depth rest

/-- The fields after the first, each on a line of its own. -/
def indentedFields (depth : Nat) : List (String × Json) → String
  | [] => ""
  | (name, value) :: rest =>
    "," ++ newLine depth ++ literal name ++ ": " ++ indented depth value ++
      indentedFields depth rest

end

def pretty (value : Json) : String := indented 0 value

def text? : Json → Option String
  | .string text => some text
  | _ => none

/-- A whole number that is not negative and fits into 64 bits. -/
def natural? : Json → Option Nat
  | .number (.ofNat n) 0 => if n < UInt64.size then some n else none
  | _ => none

end Json

end TypedConfig
