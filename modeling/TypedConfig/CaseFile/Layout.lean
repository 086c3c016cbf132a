import TypedConfig.CaseFile.Block

namespace TypedConfig.CaseFile

/-- A block before it is written: its texts as lines. -/
structure Entry where
  name : String
  headers : List (String × String)
  input : List String
  expected : List String
  deriving DecidableEq, Repr

namespace Entry

def headerLine (header : String × String) : String := "# " ++ header.1 ++ ": " ++ header.2

def lines (entry : Entry) : List String :=
  (opening ++ " " ++ entry.name) :: entry.headers.map headerLine ++
    "---" :: entry.input ++ "---" :: entry.expected ++ ["==="]

/-- The block that an entry stands for when its first line has a number. -/
def toBlock (entry : Entry) (line : Nat) : Block where
  name := entry.name
  line := line
  headers := entry.headers
  input := "\n".intercalate entry.input
  expected := Text.trim ("\n".intercalate entry.expected)

end Entry

/-- A text without blanks at its ends that stays on one line. -/
def IsTrimmed (text : String) : Prop := Text.trim text = text ∧ '\n' ∉ text.toList

instance : DecidablePred IsTrimmed := fun _ => instDecidableAnd

/-- A header can be told from its line. -/
structure IsHeader (header : String × String) : Prop where
  name : IsTrimmed header.1
  value : IsTrimmed header.2
  undivided : ':' ∉ header.1.toList

instance : DecidablePred IsHeader := fun header =>
  decidable_of_iff (IsTrimmed header.1 ∧ IsTrimmed header.2 ∧ ':' ∉ header.1.toList)
    ⟨fun ⟨name, value, undivided⟩ => ⟨name, value, undivided⟩,
      fun ⟨name, value, undivided⟩ => ⟨name, value, undivided⟩⟩

/-- A line of a part, which does not end it. -/
def Part.Holds (part : Part) (line : String) : Prop :=
  Text.IsLine line ∧ Text.trim line ≠ part.ending

instance (part : Part) : DecidablePred part.Holds := fun _ => instDecidableAnd

/-- Every part of an entry can be told from its lines. -/
structure Entry.Sound (entry : Entry) : Prop where
  name : IsTrimmed entry.name
  headers : ∀ header ∈ entry.headers, IsHeader header
  input : ∀ line ∈ entry.input, Part.input.Holds line
  expected : ∀ line ∈ entry.expected, Part.expected.Holds line

instance : DecidablePred Entry.Sound := fun entry =>
  decidable_of_iff (IsTrimmed entry.name ∧ (∀ header ∈ entry.headers, IsHeader header) ∧
      (∀ line ∈ entry.input, Part.input.Holds line) ∧
      ∀ line ∈ entry.expected, Part.expected.Holds line)
    ⟨fun ⟨name, headers, input, expected⟩ => ⟨name, headers, input, expected⟩,
      fun ⟨name, headers, input, expected⟩ => ⟨name, headers, input, expected⟩⟩

/-- A line that begins no block. -/
def IsOther (line : String) : Prop :=
  Text.IsLine line ∧ ¬ opening.toList <+: (Text.trim line).toList

instance : DecidablePred IsOther := fun _ => instDecidableAnd

/-- A file: entries with other lines before each, and other lines at the end. -/
structure Layout where
  entries : List (List String × Entry)
  ending : List String

namespace Layout

/-- The lines of entries with other lines before each. -/
def entryLines : List (List String × Entry) → List String
  | [] => []
  | (before, entry) :: rest => before ++ entry.lines ++ entryLines rest

def lines (layout : Layout) : List String := entryLines layout.entries ++ layout.ending

/-- The entries can be told from their lines, and the other lines are none of theirs. -/
structure Sound (layout : Layout) : Prop where
  entries : ∀ entry ∈ layout.entries, (∀ line ∈ entry.1, IsOther line) ∧ entry.2.Sound
  ending : ∀ line ∈ layout.ending, IsOther line

instance : DecidablePred Sound := fun layout =>
  decidable_of_iff ((∀ entry ∈ layout.entries, (∀ line ∈ entry.1, IsOther line) ∧ entry.2.Sound) ∧
      ∀ line ∈ layout.ending, IsOther line)
    ⟨fun ⟨entries, ending⟩ => ⟨entries, ending⟩, fun ⟨entries, ending⟩ => ⟨entries, ending⟩⟩

/-- The text of a file: every line is ended by a line feed. -/
def content (layout : Layout) : String :=
  String.join (layout.lines.map fun line => line ++ "\n")

/-- The blocks of entries whose lines begin after so many others. -/
def blocksFrom (before : Nat) : List (List String × Entry) → List Block
  | [] => []
  | (filler, entry) :: rest =>
    let line := before + filler.length + 1
    entry.toBlock line :: blocksFrom (before + filler.length + entry.lines.length) rest

def blocks (layout : Layout) : List Block := blocksFrom 0 layout.entries

end Layout

end TypedConfig.CaseFile
