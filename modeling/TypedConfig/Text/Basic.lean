namespace TypedConfig.Text

/-- The characters with the Unicode property `White_Space`. -/
def isBlank (c : Char) : Bool :=
  let n := c.toNat
  (0x09 ≤ n && n ≤ 0x0D) || n == 0x20 || n == 0x85 || n == 0xA0 || n == 0x1680 ||
    (0x2000 ≤ n && n ≤ 0x200A) || n == 0x2028 || n == 0x2029 || n == 0x202F || n == 0x205F ||
    n == 0x3000

/-- The blanks at the end are dropped. -/
def dropBlankEnd (cs : List Char) : List Char :=
  (cs.reverse.dropWhile isBlank).reverse

/-- The blanks at both ends are dropped. -/
def dropBlanks (cs : List Char) : List Char :=
  dropBlankEnd (cs.dropWhile isBlank)

/-- A text without the blanks at its ends. -/
def trim (s : String) : String :=
  String.ofList (dropBlanks s.toList)

/-- A word that is complete joins the words after it, unless it is empty. -/
def consWord (word : List Char) (rest : List (List Char)) : List (List Char) :=
  if word.isEmpty then rest else word :: rest

/-- The word at the front, which may be empty, and the words after it. -/
def cutWords : List Char → List Char × List (List Char)
  | [] => ([], [])
  | c :: cs =>
    let (word, rest) := cutWords cs
    if isBlank c then ([], consWord word rest) else (c :: word, rest)

/-- The maximal runs of characters that are not blank, in order. -/
def words (s : String) : List (List Char) :=
  let (word, rest) := cutWords s.toList
  consWord word rest

/-- The text before and after the first character that meets `p`, which belongs to neither. -/
def splitFirst (p : Char → Bool) : List Char → Option (List Char × List Char)
  | [] => none
  | c :: cs => if p c then some ([], cs) else (splitFirst p cs).map fun (a, b) => (c :: a, b)

/-- Whether `piece` occurs in a text as consecutive characters. -/
def hasInfix (piece : List Char) : List Char → Bool
  | [] => piece.isEmpty
  | c :: cs => piece.isPrefixOf (c :: cs) || hasInfix piece cs

/-- Whether `piece` occurs in `s`. -/
def contains (s piece : String) : Bool :=
  hasInfix piece.toList s.toList

/-- Rows of pieces that stand one behind the other have a separator between them, too. -/
theorem intercalate_append (separator : List Char) {before after : List (List Char)}
    (some : before ≠ []) (more : after ≠ []) :
    separator.intercalate (before ++ after) =
      separator.intercalate before ++ separator ++ separator.intercalate after := by
  induction before with
  | nil => exact absurd rfl some
  | cons piece before ih =>
    by_cases last : before = []
    · rw [last, List.singleton_append, List.intercalate_cons_of_ne_nil more,
        List.intercalate_singleton]
    · rw [List.cons_append, List.intercalate_cons_of_ne_nil (by simp [last]), ih last,
        List.intercalate_cons_of_ne_nil last]
      simp only [List.append_assoc]

/-! ## Lines

Each line is ended by a line feed, and a carriage return right before it belongs to the line end. A
text that ends in a line feed has no empty line after it. -/

/-- A line without the carriage return of its line end. -/
def dropReturn (line : List Char) : List Char :=
  if line.getLast? = some '\r' then line.dropLast else line

/-- The lines as they stand, before the last line end is told from an empty line. -/
def endedLines : List (List Char) → List (List Char)
  | [] => []
  | [last] => if last.isEmpty then [] else [last]
  | line :: next :: rest => dropReturn line :: endedLines (next :: rest)

/-- A text that can be a line: it does not end inside, and its last character is not taken for a
part of the line end. -/
def IsLine (text : String) : Prop := '\n' ∉ text.toList ∧ text.toList.getLast? ≠ some '\r'

instance : DecidablePred IsLine := fun _ => instDecidableAnd

/-- The lines of a text, without their ends. A text without a final line feed keeps a carriage
return at its end. -/
def lines (s : String) : List String :=
  (endedLines (s.toList.splitOn '\n')).map String.ofList

end TypedConfig.Text
