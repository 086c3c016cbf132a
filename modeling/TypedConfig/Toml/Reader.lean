import TypedConfig.Toml.Moment
import TypedConfig.Toml.Number
import TypedConfig.Toml.Table
/-!
Reading the text of a TOML document.

Every reader takes characters from the front of a text and gives back the rest; it fails where
the text is not of its form.
-/
namespace TypedConfig.Toml

def isSpace (c : Char) : Bool := c = ' ' || c = '\t'

/-- A control character, which stands nowhere in a document. -/
def isControl (c : Char) : Bool := (c.toNat < 0x20 && c != '\t') || c.toNat = 0x7F

/-- A text without the spaces and tabs at its front. -/
def dropSpaces (cs : List Char) : List Char := cs.dropWhile isSpace

/-- What follows a comment, if one begins here, up to the end of its line. -/
def dropComment : List Char → Option (List Char)
  | '#' :: cs =>
    let rest := cs.dropWhile fun c => !isControl c
    match rest with
    | [] | '\n' :: _ | '\r' :: '\n' :: _ => some rest
    | _ => none
  | cs => some cs

/-- What follows the end of a line; the end of the text ends a line too. -/
def dropLineEnd : List Char → Option (List Char)
  | [] => some []
  | '\n' :: cs => some cs
  | '\r' :: '\n' :: cs => some cs
  | _ => none

/-- What follows spaces, comments and line ends. -/
def dropLayout (fuel : Nat) (cs : List Char) : Option (List Char) :=
  match fuel with
  | 0 => some cs
  | fuel + 1 => do
    let rest ← dropComment (dropSpaces cs)
    match rest with
    | '\n' :: rest | '\r' :: '\n' :: rest => dropLayout fuel rest
    | _ => return rest

/-- What follows spaces, comments and line ends, however many there are. -/
def skipLayout (cs : List Char) : Option (List Char) := dropLayout (cs.length + 1) cs

/-- The character with a code that is written in base 16. -/
def hexChar? (digits : List Char) : Option Char := do
  let values ← digits.mapM hexValue?
  let code := values.foldl (fun n d => 16 * n + d) 0
  if code.isValidChar then return Char.ofNat code else none

/-- The character that a letter after a backslash stands for. -/
def escaped? (c : Char) : Option Char :=
  [('b', '\x08'), ('t', '\t'), ('n', '\n'), ('f', '\x0c'), ('r', '\r'), ('e', '\x1b'),
    ('"', '"'), ('\\', '\\')].lookup c

/-- The rest of a text in double quotes, up to its closing quote. -/
def quotedRest : List Char → Option (List Char × List Char)
  | [] => none
  | '"' :: rest => some ([], rest)
  | '\\' :: 'x' :: a :: b :: rest => do
    let c ← hexChar? [a, b]
    let (cs, rest) ← quotedRest rest
    return (c :: cs, rest)
  | '\\' :: 'u' :: a :: b :: c :: d :: rest => do
    let c ← hexChar? [a, b, c, d]
    let (cs, rest) ← quotedRest rest
    return (c :: cs, rest)
  | '\\' :: 'U' :: a :: b :: c :: d :: e :: f :: g :: h :: rest => do
    let c ← hexChar? [a, b, c, d, e, f, g, h]
    let (cs, rest) ← quotedRest rest
    return (c :: cs, rest)
  | '\\' :: c :: rest => do
    let c ← escaped? c
    let (cs, rest) ← quotedRest rest
    return (c :: cs, rest)
  | c :: rest => do
    if isControl c then none
    let (cs, rest) ← quotedRest rest
    return (c :: cs, rest)

/-- The rest of a text in single quotes, in which nothing is escaped. -/
def literalRest : List Char → Option (List Char × List Char)
  | [] => none
  | '\'' :: rest => some ([], rest)
  | c :: rest => do
    if isControl c then none
    let (cs, rest) ← literalRest rest
    return (c :: cs, rest)

/-- The rest of a text over several lines in double quotes. After a backslash at the end of a
line, `skip`, all blanks and line ends are passed over. -/
def quotedLines (skip : Bool) : List Char → Option (List Char × List Char)
  | [] => none
  | '"' :: '"' :: '"' :: '"' :: '"' :: rest => some (['"', '"'], rest)
  | '"' :: '"' :: '"' :: '"' :: rest => some (['"'], rest)
  | '"' :: '"' :: '"' :: rest => some ([], rest)
  | '\\' :: 'x' :: a :: b :: rest => do
    let c ← hexChar? [a, b]
    let (cs, rest) ← quotedLines false rest
    return (c :: cs, rest)
  | '\\' :: 'u' :: a :: b :: c :: d :: rest => do
    let c ← hexChar? [a, b, c, d]
    let (cs, rest) ← quotedLines false rest
    return (c :: cs, rest)
  | '\\' :: 'U' :: a :: b :: c :: d :: e :: f :: g :: h :: rest => do
    let c ← hexChar? [a, b, c, d, e, f, g, h]
    let (cs, rest) ← quotedLines false rest
    return (c :: cs, rest)
  | '\\' :: c :: rest =>
    match escaped? c with
    | some c => do
      let (cs, rest) ← quotedLines false rest
      return (c :: cs, rest)
    | none =>
      match (c :: rest).dropWhile isSpace with
      | '\n' :: _ | '\r' :: '\n' :: _ => quotedLines true (c :: rest)
      | _ => none
  | '\r' :: '\n' :: rest => do
    let (cs, rest) ← quotedLines skip rest
    return (if skip then cs else '\r' :: '\n' :: cs, rest)
  | c :: rest =>
    if skip && (isSpace c || c = '\n') then quotedLines true rest
    else do
      if isControl c && c != '\n' then none
      let (cs, rest) ← quotedLines false rest
      return (c :: cs, rest)

/-- The rest of a text over several lines in single quotes. -/
def literalLines : List Char → Option (List Char × List Char)
  | [] => none
  | '\'' :: '\'' :: '\'' :: '\'' :: '\'' :: rest => some (['\'', '\''], rest)
  | '\'' :: '\'' :: '\'' :: '\'' :: rest => some (['\''], rest)
  | '\'' :: '\'' :: '\'' :: rest => some ([], rest)
  | '\r' :: '\n' :: rest => do
    let (cs, rest) ← literalLines rest
    return ('\r' :: '\n' :: cs, rest)
  | c :: rest => do
    if isControl c && c != '\n' then none
    let (cs, rest) ← literalLines rest
    return (c :: cs, rest)

/-- A text without the line end at its front, which does not belong to a text of several lines. -/
def dropFirstLineEnd (cs : List Char) : List Char :=
  match cs with
  | '\n' :: rest | '\r' :: '\n' :: rest => rest
  | _ => cs

/-- Reads a text on one line in quotes of either kind. -/
def readQuoted : List Char → Option (String × List Char)
  | '"' :: cs => (quotedRest cs).map fun (s, rest) => (String.ofList s, rest)
  | '\'' :: cs => (literalRest cs).map fun (s, rest) => (String.ofList s, rest)
  | _ => none

/-- Reads a text in quotes of any kind. -/
def readText : List Char → Option (String × List Char)
  | '"' :: '"' :: '"' :: cs =>
    (quotedLines false (dropFirstLineEnd cs)).map fun (s, rest) => (String.ofList s, rest)
  | '\'' :: '\'' :: '\'' :: cs =>
    (literalLines (dropFirstLineEnd cs)).map fun (s, rest) => (String.ofList s, rest)
  | cs => readQuoted cs

/-- A character of a key without quotes. -/
def isBare (c : Char) : Bool := c.isAlphanum || c = '_' || c = '-'

/-- Reads one part of a key. -/
def readKeyPart (cs : List Char) : Option (String × List Char) :=
  match cs with
  | '"' :: _ | '\'' :: _ => readQuoted cs
  | _ =>
    let bare := cs.takeWhile isBare
    if bare.isEmpty then none else some (String.ofList bare, cs.dropWhile isBare)

/-- Reads a key: so many parts at most, with points between them. -/
def readKey (parts : Nat) (cs : List Char) : Option (List String × List Char) :=
  match parts with
  | 0 => none
  | parts + 1 => do
    let (part, rest) ← readKeyPart (dropSpaces cs)
    match dropSpaces rest with
    | '.' :: rest => do
      let (others, rest) ← readKey parts rest
      return (part :: others, rest)
    | rest => return ([part], rest)

/-- The greatest number of parts of a key. -/
def maxParts : Nat := 80

/-- A character of a value without quotes and brackets: no blank, and no character that ends the
value before it. -/
def isWordChar (c : Char) : Bool :=
  !(c ∈ [' ', '\t', '\r', '\n', '#', ',', '=', '[', ']', '\x7b', '\x7d'])

/-- Whether more of a value without quotes begins here, behind blanks. -/
def goesOn : List Char → Bool
  | [] => false
  | c :: _ => isWordChar c && !(c ∈ ['.', '"', '\''])

/-- The words at the front, with the blanks between them, and what follows the last. -/
def cutWords : List Char → List Char × List Char
  | [] => ([], [])
  | c :: cs =>
    if isWordChar c || (isSpace c && goesOn (dropSpaces cs)) then
      let (words, rest) := cutWords cs
      (c :: words, rest)
    else ([], c :: cs)

/-- Reads a value without quotes and brackets: a truth value, a number, a day or a time. -/
def readPlain (cs : List Char) : Option (Value × List Char) :=
  let (words, rest) := cutWords cs
  if words = ['t', 'r', 'u', 'e'] then some (.boolean true, rest)
  else if words = ['f', 'a', 'l', 's', 'e'] then some (.boolean false, rest)
  else if isNumber words || isMoment words then some (.plain (String.ofList words), rest)
  else none

/-- Reads the items of an array up to its closing bracket; a comma may stand after the last. -/
def readItems (item : List Char → Option (Value × List Char)) (fuel : Nat) (cs : List Char) :
    Option (List Value × List Char) :=
  match fuel with
  | 0 => none
  | fuel + 1 => do
    match ← skipLayout cs with
    | ']' :: rest => return ([], rest)
    | cs =>
      let (first, rest) ← item cs
      match ← skipLayout rest with
      | ']' :: rest => return ([first], rest)
      | ',' :: rest =>
        let (items, rest) ← readItems item fuel rest
        return (first :: items, rest)
      | _ => none

/-- Reads the entries of a table in braces up to its closing brace; a comma may stand after the
last. -/
def readEntries (item : List Char → Option (Value × List Char)) (fuel : Nat) (before : Table)
    (cs : List Char) : Option (Table × List Char) :=
  match fuel with
  | 0 => none
  | fuel + 1 => do
    match ← skipLayout cs with
    | '\x7d' :: rest => return (before, rest)
    | cs =>
      let (key, rest) ← readKey maxParts cs
      match ← skipLayout rest with
      | '=' :: rest =>
        let (value, rest) ← item (← skipLayout rest)
        let entries ← putDotted key value before
        match ← skipLayout rest with
        | '\x7d' :: rest => return (entries, rest)
        | ',' :: rest => readEntries item fuel entries rest
        | _ => none
      | _ => none

/-- Reads a value in which at most so many brackets and braces are open at once. -/
def readValue (depth : Nat) (cs : List Char) : Option (Value × List Char) :=
  match depth, cs with
  | depth + 1, '[' :: rest => do
    let (items, rest) ← readItems (readValue depth) (rest.length + 1) rest
    return (.array items, rest)
  | depth + 1, '\x7b' :: rest => do
    let (entries, rest) ← readEntries (readValue depth) (rest.length + 1) [] rest
    return (.table .closed entries, rest)
  | _, '"' :: _ | _, '\'' :: _ => (readText cs).map fun (s, rest) => (.text s, rest)
  | _, _ => readPlain cs

/-- The greatest number of brackets and braces that are open at once. -/
def maxDepth : Nat := 80

/-- A line of a document: a header in single or double brackets, or a key with its value. -/
inductive Statement where
  | header (key : List String)
  | element (key : List String)
  | entry (key : List String) (value : Value)

/-- Reads a line that is not empty, up to its end. -/
def readStatement (cs : List Char) : Option (Statement × List Char) :=
  match cs with
  | '[' :: '[' :: rest => do
    let (key, rest) ← readKey maxParts rest
    match rest with
    | ']' :: ']' :: rest => return (.element key, rest)
    | _ => none
  | '[' :: rest => do
    let (key, rest) ← readKey maxParts rest
    match rest with
    | ']' :: rest => return (.header key, rest)
    | _ => none
  | _ => do
    let (key, rest) ← readKey maxParts cs
    match rest with
    | '=' :: rest =>
      let (value, rest) ← readValue maxDepth (dropSpaces rest)
      return (.entry key value, rest)
    | _ => none

/-- Reads the lines of a document, each of which fills its line but for a comment. -/
def readStatements (fuel : Nat) (cs : List Char) : Option (List Statement) :=
  match fuel with
  | 0 => some []
  | fuel + 1 => do
    match ← skipLayout cs with
    | [] => return []
    | cs =>
      let (statement, rest) ← readStatement cs
      let rest ← dropLineEnd (← dropComment (dropSpaces rest))
      return statement :: (← readStatements fuel rest)

/-- What a document says. -/
def Statement.assemble : List Statement → (current : List String) → Table → Option Table
  | [], _, root => some root
  | .header key :: rest, _, root => do assemble rest key (← openTable key root)
  | .element key :: rest, _, root => do assemble rest key (← openElement key root)
  | .entry key value :: rest, current, root => do
    assemble rest current (← within current (putDotted key value) root)

/-- The table that a document's text stands for. A mark of the byte order at its front does not
belong to it. -/
def parse (document : String) : Option Table := do
  let cs := match document.toList with
    | '\uFEFF' :: cs => cs
    | cs => cs
  Statement.assemble (← readStatements (cs.length + 1) cs) [] []

end TypedConfig.Toml
