import TypedConfig.CaseFile.Block
import TypedConfig.Project.InMemory
import TypedConfig.Session.Basic

namespace TypedConfig.CaseFile

inductive Verdict where
  | pass
  | mismatch (expected actual : String)
  | broken (message : String)
  deriving DecidableEq, Repr

/-- What is expected of a case: a text, or a part of an error's message. -/
inductive Expectation where
  | answer (text : String)
  | error (fragment : String)
  deriving DecidableEq, Repr

/-- Two texts agree when their words do, however these are laid out. -/
def Verdict.compare (expected actual : String) : Verdict :=
  if Text.words expected = Text.words actual then .pass else .mismatch expected actual

/-- What an answer, or else an error's message, means for an expectation. -/
def Expectation.judge : Expectation → Except String String → Verdict
  | .answer text, .ok actual => .compare text actual
  | .answer text, .error message => .mismatch text ("error: " ++ message)
  | .error fragment, .ok actual => .mismatch ("error: " ++ fragment) actual
  | .error fragment, .error message =>
    if Text.contains message fragment then .pass
    else .mismatch ("error containing: " ++ fragment) ("error: " ++ message)

/-- What a block expects: an error, where a header says so, and otherwise an answer. -/
def Block.expectation (block : Block) : Expectation :=
  if block.header? "expect" = some "error" then .error block.expected
  else .answer block.expected

def Block.runSignature (block : Block) : Verdict :=
  block.expectation.judge
    ((Signature.parse block.input).map Descriptor.tree |>.mapError Signature.SyntaxError.render)

/-- The signature for which the value of a block is checked. -/
def Block.signature? (block : Block) : Option String := block.header? "type"

/-- The types that a block adds to the project: names between commas. -/
def Block.classpath (block : Block) : List String :=
  match block.header? "classpath" with
  | none => []
  | some types =>
    ((types.toList.splitOn ',').map fun piece => String.ofList (Text.dropBlanks piece)).filter
      (· ≠ "")

/-- A session for the value of a block alone, with the standard converters. -/
def Block.session (block : Block) : Session :=
  .new ((InMemory.standard ("conversions:" ++ block.name)).addTypes block.classpath).toProject
    (.named block.name)

def Block.runConversion (block : Block) : Verdict :=
  match block.signature? with
  | none => .broken "missing `# type:` header"
  | some signature =>
    let ((outcome, diagnostics), _) := block.session.check block.input signature 0 []
    block.expectation.judge
      (outcome.map (fun () => Diagnostic.report diagnostics) |>.mapError CheckError.message)

end TypedConfig.CaseFile
