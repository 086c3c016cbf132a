import TypedConfig.Descriptor.Basic
/-!
Reading a signature, one character after the other.

A type is a name, which may be followed by types in angle brackets, separated by commas; blanks
stand anywhere between these. The reader keeps the brackets that are still open and where it is
in the innermost of them, so what it has read so far decides what may follow.
-/
namespace TypedConfig.Signature

open TypedConfig.Text (isBlank)

/-- Why reading a signature stops, with the character at which it does. -/
inductive Problem where
  /-- A type has to begin here. -/
  | nameExpected (found : Char)
  /-- A type has to begin, and the text ends. -/
  | nameMissing
  /-- Inside brackets, a type is followed by something else than a comma or a bracket. -/
  | separatorExpected (found : Char)
  /-- The text ends inside brackets. -/
  | unclosed
  /-- Something follows the whole type. -/
  | trailing (found : Char)
  deriving DecidableEq, Repr

def charText (c : Char) : String := String.ofList ['\'', c, '\'']

def Problem.message : Problem → String
  | .nameExpected found => "expected type name, found " ++ charText found
  | .nameMissing => "expected type name, found end of input"
  | .separatorExpected found => "expected ',' or '>', found " ++ charText found
  | .unclosed => "expected '>', found end of input"
  | .trailing found => "unexpected " ++ charText found ++ " after type"

/-- A signature that is not one: the problem and the number of characters before it. -/
structure SyntaxError where
  problem : Problem
  offset : Nat
  signature : String
  deriving DecidableEq, Repr

def SyntaxError.message (e : SyntaxError) : String := e.problem.message

/-- What is wrong, where, and in which signature. -/
def SyntaxError.render (e : SyntaxError) : String :=
  e.message ++ " at offset " ++ toString e.offset ++ " in `" ++ e.signature ++ "`"

instance : ToString SyntaxError := ⟨SyntaxError.render⟩

/-- A generic type whose bracket is open: its name and the arguments before the current one, the
latest first. -/
structure Frame where
  name : String
  arguments : List Descriptor

/-- Where the reader is in the current type. A name's characters stand with the latest first. -/
inductive Cursor where
  | start
  /-- The name may go on. -/
  | inName (letters : List Char)
  /-- A blank has ended the name; a bracket may open. -/
  | afterName (name : String)
  /-- The type's own bracket has closed. -/
  | afterGeneric (type : Descriptor)

/-- The open brackets, the innermost first, and the cursor. -/
structure State where
  frames : List Frame
  cursor : Cursor

def State.initial : State := ⟨[], .start⟩

/-- The name of the characters read. -/
def nameOf (letters : List Char) : String := String.ofList letters.reverse

/-- A bracket opens after a name. -/
def State.opened (frames : List Frame) (name : String) : State := ⟨⟨name, []⟩ :: frames, .start⟩

/-- A character after a complete type: inside a bracket, a comma asks for one more argument and
a bracket may close. -/
def State.follow (frames : List Frame) (type : Descriptor) (c : Char) : Except Problem State :=
  match frames with
  | [] => .error (.trailing c)
  | frame :: outer =>
    if c = ',' then .ok ⟨⟨frame.name, type :: frame.arguments⟩ :: outer, .start⟩
    else if c = '>' then
      .ok ⟨outer, .afterGeneric ⟨frame.name, (type :: frame.arguments).reverse⟩⟩
    else .error (.separatorExpected c)

/-- Whether a character may stand in a name. -/
def isNameChar (c : Char) : Bool := !(c = '<' || c = '>' || c = ',' || isBlank c)

/-- One character is read. -/
def State.step (state : State) (c : Char) : Except Problem State :=
  match state.cursor with
  | .start =>
    if isBlank c then .ok state
    else if isNameChar c then .ok ⟨state.frames, .inName [c]⟩
    else .error (.nameExpected c)
  | .inName letters =>
    if isBlank c then .ok ⟨state.frames, .afterName (nameOf letters)⟩
    else if isNameChar c then .ok ⟨state.frames, .inName (c :: letters)⟩
    else if c = '<' then .ok (.opened state.frames (nameOf letters))
    else State.follow state.frames (.simple (nameOf letters)) c
  | .afterName name =>
    if isBlank c then .ok state
    else if c = '<' then .ok (.opened state.frames name)
    else State.follow state.frames (.simple name) c
  | .afterGeneric type =>
    if isBlank c then .ok state else State.follow state.frames type c

/-- The text ends after a complete type. -/
def State.close (frames : List Frame) (type : Descriptor) : Except Problem Descriptor :=
  match frames with
  | [] => .ok type
  | _ :: _ => .error .unclosed

def State.finish (state : State) : Except Problem Descriptor :=
  match state.cursor with
  | .start => .error .nameMissing
  | .inName letters => State.close state.frames (.simple (nameOf letters))
  | .afterName name => State.close state.frames (.simple name)
  | .afterGeneric type => State.close state.frames type

/-- The rest of a text is read from a state. A problem comes with the number of characters that
were read before it, where `before` of them precede the rest. -/
def State.read (state : State) (before : Nat) : List Char → Except (Problem × Nat) Descriptor
  | [] => state.finish.mapError fun problem => (problem, before)
  | c :: rest =>
    match state.step c with
    | .ok next => next.read (before + 1) rest
    | .error problem => .error (problem, before)

/-- The descriptor that a signature stands for. -/
def parse (signature : String) : Except SyntaxError Descriptor :=
  (State.initial.read 0 signature.toList).mapError fun (problem, offset) =>
    ⟨problem, offset, signature⟩

end TypedConfig.Signature
