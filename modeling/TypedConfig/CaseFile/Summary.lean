import TypedConfig.CaseFile.Case

namespace TypedConfig.CaseFile

structure Failure where
  name : String
  line : Nat
  verdict : Verdict
  deriving DecidableEq, Repr

/-- The counts, and the failures in order. -/
structure Summary where
  passed : Nat := 0
  failed : Nat := 0
  broken : Nat := 0
  failures : List Failure := []
  deriving DecidableEq, Repr

namespace Summary

def record (summary : Summary) (name : String) (line : Nat) (verdict : Verdict) : Summary :=
  let failures := summary.failures ++ [⟨name, line, verdict⟩]
  match verdict with
  | .pass => { summary with passed := summary.passed + 1 }
  | .mismatch _ _ => { summary with failed := summary.failed + 1, failures }
  | .broken _ => { summary with broken := summary.broken + 1, failures }

/-- The summary of the blocks of a file. -/
def ofBlocks (run : Block → Verdict) (blocks : List Block) : Summary :=
  blocks.foldl (fun summary block => summary.record block.name block.line (run block)) {}

def total (summary : Summary) : Nat := summary.passed + summary.failed + summary.broken

def allPassed (summary : Summary) : Bool := summary.failed = 0 && summary.broken = 0

def rule : String := String.ofList (List.replicate 60 '═') ++ "\n"

def verdictLines : Verdict → String
  | .pass => ""
  | .mismatch expected actual =>
    "    expected: " ++ expected ++ "\n    actual:   " ++ actual ++ "\n"
  | .broken message => "    error: " ++ message ++ "\n"

/-- The lines of a failure, behind an empty one. -/
def failureLines (failure : Failure) : String :=
  "\n  " ++ failure.name ++ " (line " ++ toString failure.line ++ ")\n" ++
    verdictLines failure.verdict

def render (summary : Summary) : String :=
  "\n" ++ rule ++ "Test Summary: " ++ toString summary.total ++ " total\n  ✓ " ++
    toString summary.passed ++ " passed  ✗ " ++ toString summary.failed ++ " failed  ⚠ " ++
    toString summary.broken ++ " errors\n" ++ String.join (summary.failures.map failureLines) ++
    rule

end Summary

end TypedConfig.CaseFile
