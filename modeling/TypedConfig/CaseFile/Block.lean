import TypedConfig.Text.Basic
/-!
Files of cases: blocks of three parts, one after the other.

A block begins with a line that gives its name. Headers follow, then the input and then the text
that is expected of it, and each part has a line that ends it. What stands outside of blocks is
passed over, and a block that the file's end cuts off is still a block.
-/
namespace TypedConfig.CaseFile

/-- One block of a file; its line is the one with its name, counted from 1. -/
structure Block where
  name : String
  line : Nat
  headers : List (String × String)
  input : String
  expected : String
  deriving DecidableEq, Repr

def Block.header? (block : Block) (name : String) : Option String := block.headers.lookup name

/-- The parts of a block after its first line. -/
inductive Part where
  | headers
  | input
  | expected
  deriving DecidableEq, Repr

/-- The line that ends a part, apart from blanks around it. -/
def Part.ending : Part → String
  | headers | input => "---"
  | expected => "==="

/-- The part that comes after another. -/
def Part.next? : Part → Option Part
  | headers => some input
  | input => some expected
  | expected => none

/-- A block that is being read, with the latest header and the latest lines first. -/
structure Draft where
  name : String
  line : Nat
  headers : List (String × String) := []
  input : List String := []
  expected : List String := []

def opening : String := "# test:"

/-- The name of the block that a line begins. -/
def nameIn? (line : String) : Option String :=
  (opening.toList.isPrefixOf? (Text.trim line).toList).map fun rest =>
    Text.trim (String.ofList rest)

/-- The header that a line gives: a name and a value on both sides of the first colon. -/
def headerIn? (line : String) : Option (String × String) := do
  let rest ← ['#'].isPrefixOf? (Text.trim line).toList
  let (name, value) ← Text.splitFirst (· = ':') rest
  return (Text.trim (String.ofList name), Text.trim (String.ofList value))

namespace Draft

/-- A line is read in a part. A line among the headers that gives none is passed over. -/
def add (draft : Draft) (line : String) : Part → Draft
  | .headers => match headerIn? line with
    | some header => { draft with headers := header :: draft.headers }
    | none => draft
  | .input => { draft with input := line :: draft.input }
  | .expected => { draft with expected := line :: draft.expected }

/-- The block is complete: the input is kept as it stands, the expected text without the blanks
at its ends. -/
def finish (draft : Draft) : Block where
  name := draft.name
  line := draft.line
  headers := draft.headers.reverse
  input := "\n".intercalate draft.input.reverse
  expected := Text.trim ("\n".intercalate draft.expected.reverse)

end Draft

/-- The blocks in lines of which the first has a number; there may be a block that is being
read, and the part of it. -/
def readBlocks : Option (Draft × Part) → Nat → List String → List Block
  | none, _, [] => []
  | some (draft, _), _, [] => [draft.finish]
  | none, number, line :: rest =>
    match nameIn? line with
    | some name => readBlocks (some ({ name, line := number }, .headers)) (number + 1) rest
    | none => readBlocks none (number + 1) rest
  | some (draft, part), number, line :: rest =>
    if Text.trim line = part.ending then
      match part.next? with
      | some next => readBlocks (some (draft, next)) (number + 1) rest
      | none => draft.finish :: readBlocks none (number + 1) rest
    else readBlocks (some (draft.add line part, part)) (number + 1) rest

def blocks (content : String) : List Block := readBlocks none 1 (Text.lines content)

end TypedConfig.CaseFile
