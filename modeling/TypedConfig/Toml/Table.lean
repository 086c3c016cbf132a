import TypedConfig.Entries

namespace TypedConfig.Toml

/-- How a table came to be, which decides what may be added to it. It has at most one header, and in
braces it is complete; a dotted key may add to tables that have no header of their own. -/
inductive Origin where
  /-- It has a header of its own. -/
  | header
  /-- A header below it names it. -/
  | implied
  /-- A dotted key names it. -/
  | dotted
  /-- It is written in braces, and complete. -/
  | closed
  deriving DecidableEq, Repr

/-- A value. Of numbers, days and times only the text is known. -/
inductive Value where
  | text (text : String)
  | boolean (value : Bool)
  | plain (text : String)
  | array (items : List Value)
  | table (origin : Origin) (entries : List (String × Value))
  /-- Tables that share one header in double brackets. -/
  | tables (items : List (List (String × Value)))
  deriving Repr, Inhabited

/-- The values of a table by their keys, in order. -/
abbrev Table := List (String × Value)

namespace Value

def text? : Value → Option String
  | text s => some s
  | _ => none

def boolean? : Value → Option Bool
  | boolean b => some b
  | _ => none

def texts? : Value → Option (List String)
  | array items => items.mapM text?
  | _ => none

end Value

/-! ## Adding to tables -/

/-- Changes the last item of a list. -/
def changeLast {α : Type} (change : α → Option α) : List α → Option (List α)
  | [] => none
  | [x] => do return [← change x]
  | x :: y :: rest => do return x :: (← changeLast change (y :: rest))

/-- Where a key stands: in a header, or before a value. -/
inductive Way where
  | header
  | dotted
  deriving DecidableEq, Repr

namespace Way

/-- How a table comes to be that is missing on the way. -/
def created : Way → Origin
  | header => .implied
  | dotted => .dotted

/-- Whether a table may be entered. Headers enter all but those in braces. A dotted key enters
those without a header; the last one, to which it adds, has to be named by dotted keys alone. -/
def enters (isLast : Bool) : Way → Origin → Bool
  | header, origin => origin != .closed
  | dotted, origin => origin = .dotted || (origin = .implied && !isLast)

/-- Whether the last of the tables that share a header may be entered. No dotted key adds to
it. -/
def entersShared (isLast : Bool) : Way → Bool
  | header => true
  | dotted => !isLast

end Way

/-- Changes what stands under the last part of a key. The other parts lead through tables, and
those that are missing come to be. -/
def alter (way : Way) (change : Option Value → Option Value) :
    List String → Table → Option Table
  | [], _ => none
  | [part], entries => do
    return Entries.put part (← change (entries.lookup part)) entries
  | part :: next :: rest, entries =>
    match entries.lookup part with
    | none => do
      return Entries.put part
        (.table way.created (← alter way change (next :: rest) [])) entries
    | some (.table origin inner) =>
      if way.enters rest.isEmpty origin then do
        return Entries.put part (.table origin (← alter way change (next :: rest) inner)) entries
      else none
    | some (.tables items) =>
      if way.entersShared rest.isEmpty then do
        return Entries.put part
          (.tables (← changeLast (alter way change (next :: rest)) items)) entries
      else none
    | some _ => none

/-- A value stands under a dotted key, which is free. -/
def putDotted (key : List String) (value : Value) (entries : Table) : Option Table :=
  alter .dotted (fun | none => some value | some _ => none) key entries

/-- A header in single brackets opens a table, which must not have had one. -/
def openTable (key : List String) (root : Table) : Option Table :=
  alter .header
    (fun
      | none => some (.table .header [])
      | some (.table .implied entries) => some (.table .header entries)
      | some _ => none)
    key root

/-- A header in double brackets adds a table to those that share it. -/
def openElement (key : List String) (root : Table) : Option Table :=
  alter .header
    (fun
      | none => some (.tables [[]])
      | some (.tables items) => some (.tables (items ++ [[]]))
      | some _ => none)
    key root

/-- Changes the table that the latest header opened; the document itself before any header. -/
def within (current : List String) (change : Table → Option Table) (root : Table) :
    Option Table :=
  if current.isEmpty then change root
  else
    alter .header
      (fun
        | some (.table origin entries) => do return .table origin (← change entries)
        | some (.tables items) => do return .tables (← changeLast change items)
        | _ => none)
      current root

end TypedConfig.Toml
