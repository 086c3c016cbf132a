import TypedConfig.Json.Basic

namespace TypedConfig

/-- A message about the characters from `start` up to `stop`, counted from the document's first. -/
structure Diagnostic where
  message : String
  source : String
  code : String
  start : Nat
  stop : Nat
  deriving DecidableEq, Repr, Inhabited

namespace Diagnostic

def span (d : Diagnostic) : String :=
  "[" ++ toString d.start ++ ".." ++ toString d.stop ++ "]"

def render (d : Diagnostic) : String := d.span ++ " " ++ d.code ++ ": " ++ d.message

def brief (d : Diagnostic) : String := d.span ++ " " ++ d.message

def report (ds : List Diagnostic) : String := "\n".intercalate (ds.map brief)

instance : ToString Diagnostic := ⟨render⟩

def fieldNames : List String := ["message", "source", "code", "start", "end"]

def values (d : Diagnostic) : List Json :=
  [.string d.message, .string d.source, .string d.code, .natural d.start, .natural d.stop]

def toJson (d : Diagnostic) : Json := .object (fieldNames.zip d.values)

def ofValues? : List Json → Option Diagnostic
  | [message, source, code, start, stop] => do
    return ⟨← message.text?, ← source.text?, ← code.text?, ← start.natural?, ← stop.natural?⟩
  | _ => none

/-- The value of a field that is given once. -/
def fieldValue? (fields : List (String × Json)) (name : String) : Option Json :=
  match fields.filter fun field => field.1 = name with
  | [(_, value)] => some value
  | _ => none

/-- Reads a diagnostic: an object that has all five fields, or their values in an array. -/
def ofJson? : Json → Option Diagnostic
  | .object fields => (fieldNames.mapM (fieldValue? fields)).bind ofValues?
  | .array items => ofValues? items
  | _ => none

end Diagnostic

/-- The source and the code that a session writes on its diagnostics. -/
structure Labels where
  source : String
  code : String
  deriving DecidableEq, Repr

end TypedConfig
