import TypedConfig.Descriptor.Json
import TypedConfig.Repl.Config
import TypedConfig.Session.Basic
import TypedConfig.Text.Basic
/-!
The interactive checker: each line is a command or a value.

A value is checked against the signature that is selected. Commands begin with a slash; they
select a signature, show what is known, or forget it.
-/
namespace TypedConfig.Repl

/-- The session, the signature that values are checked against, and whether the user has left. -/
structure State where
  session : Session
  signature : Option String
  quit : Bool := false

/-- The state at the start. The signature of the configuration is selected as it is. -/
def State.start (config : Config) : State where
  session := .new config.inMemory.toProject config.settings
  signature := config.signature

structure Status where
  project : String
  provider : Option String
  signature : Option String
  cached : Nat
  deriving DecidableEq, Repr

/-- An answer to a line. -/
inductive Reply where
  | accepted
  /-- The value cannot be checked, since there is no capability. -/
  | unchecked
  | rejected (diagnostics : List Diagnostic)
  | failed (error : CheckError)
  /-- There is no signature to check a value against. -/
  | selectFirst
  | selected (signature : String) (validator : Validator)
  /-- A signature is selected without having been read. -/
  | selectedUnchecked (signature : String)
  | current (signature : String)
  | noneSelected
  | malformed (error : Signature.SyntaxError)
  | parsed (descriptor : Descriptor)
  | status (shown : Status)
  | wasReset
  | help
  | unknownCommand (command : String)

def helpLines : List String :=
  ["typeconv: check configuration values against Java type signatures",
    "",
    "Commands:",
    "  /help, /h, /?        Show this help",
    "  /quit, /q, /exit     Exit the REPL",
    "  /type, /t <sig>      Select the signature values are checked against",
    "  /parse, /p [sig]     Show the parsed descriptor as JSON",
    "  /status              Show project, capability provider and cache size",
    "  /reset               Drop the capability and all cached validators",
    "",
    "Anything else is a raw value, validated against the current signature.",
    "",
    "Examples:",
    "  /type java.util.List<java.lang.Integer>",
    "  1,2X,3x,4",
    "  /type java.util.Optional<double>",
    "  1.5",
    ""]

namespace Status

def render (status : Status) : String :=
  "Project:    " ++ status.project ++ "\nProvider:   " ++ status.provider.getD "(none)" ++
    "\nSignature:  " ++ status.signature.getD "(none)" ++ "\nCached:     " ++
    toString status.cached ++ " validator(s)"

end Status

namespace Reply

def render : Reply → String
  | accepted => "ok"
  | unchecked => "unchecked (no conversion capability)"
  | rejected diagnostics => "\n".intercalate (diagnostics.map Diagnostic.render)
  | failed error => "Error: " ++ error.message
  | selectFirst => "No signature set. Use /type <signature> first."
  | selected signature validator => signature ++ "\n  " ++ validator.render
  | selectedUnchecked signature =>
    signature ++ "\n  (no conversion capability; values will not be checked)"
  | current signature => "Current signature: " ++ signature
  | noneSelected => "No signature set."
  | malformed error => "Parse error: " ++ error.render
  | parsed descriptor => descriptor.toJson.pretty
  | status shown => shown.render
  | wasReset => "Session reset; capability will be rediscovered."
  | help => "\n".intercalate helpLines
  | unknownCommand command =>
    "Unknown command: " ++ command ++ "\nType /help for available commands."

end Reply

inductive Command where
  | quit
  | help
  /-- Select a signature, or show the one that is selected if the text is empty. -/
  | select (signature : String)
  /-- Show what a signature stands for; the selected one if the text is empty. -/
  | parse (signature : String)
  | status
  | reset
  | unknown (name : String)
  | nothing
  | value (text : String)
  deriving DecidableEq, Repr

namespace Command

/-- The command with a name and with the text after it. -/
def ofName (name argument : String) : Command :=
  match name with
  | "/quit" | "/q" | "/exit" => quit
  | "/help" | "/h" | "/?" => help
  | "/type" | "/t" => select argument
  | "/parse" | "/p" => parse argument
  | "/status" => status
  | "/reset" => reset
  | _ => unknown name

/-- A line without the characters of its end. -/
def dropLineEnd (line : List Char) : List Char :=
  (line.reverse.dropWhile fun c => c = '\r' || c = '\n').reverse

/-- Reads a line. Blanks around a command do not count; those around a value belong to it. -/
def ofLine (line : String) : Command :=
  let trimmed := Text.dropBlanks line.toList
  match trimmed with
  | [] => nothing
  | '/' :: _ =>
    match Text.splitFirst Text.isBlank trimmed with
    | some (name, argument) =>
      ofName (String.ofList name) (String.ofList (Text.dropBlanks argument))
    | none => ofName (String.ofList trimmed) ""
  | _ => value (String.ofList (dropLineEnd line.toList))

end Command

namespace State

def check (state : State) (value : String) : Reply × State :=
  match state.signature with
  | none => (.selectFirst, state)
  | some signature =>
    match state.session.check value signature 0 [] with
    | ((.error error, _), session) => (.failed error, { state with session })
    | ((.ok (), []), session) =>
      let (available, session) := session.available
      (if available then .accepted else .unchecked, { state with session })
    | ((.ok (), diagnostics), session) => (.rejected diagnostics, { state with session })

/-- A signature is selected if it has a validator. Without a capability it is selected as it
is. -/
def select (state : State) (signature : String) : Reply × State :=
  if signature.isEmpty then
    match state.signature with
    | some current => (.current current, state)
    | none => (.noneSelected, state)
  else
    match state.session.validator signature with
    | (.ok (some kept), session) =>
      (.selected signature kept.validator, { state with session, signature := some signature })
    | (.ok none, session) =>
      (.selectedUnchecked signature, { state with session, signature := some signature })
    | (.error (.malformed error), session) => (.malformed error, { state with session })
    | (.error error, session) => (.failed error, { state with session })

def parse (state : State) (signature : String) : Reply :=
  let signature := if signature.isEmpty then state.signature.getD "" else signature
  match Signature.parse signature with
  | .ok descriptor => .parsed descriptor
  | .error error => .malformed error

/-- Shows the session, for which the capability is looked for. -/
def status (state : State) : Reply × State :=
  let (provider, session) := state.session.providerName
  (.status ⟨session.project.name, provider, state.signature, session.cache.size⟩,
    { state with session })

def run (state : State) : Command → Option Reply × State
  | .quit => (none, { state with quit := true })
  | .help => (some .help, state)
  | .select signature => (state.select signature).map some id
  | .parse signature => (some (state.parse signature), state)
  | .status => state.status.map some id
  | .reset => (some .wasReset, { state with session := state.session.reset })
  | .unknown name => (some (.unknownCommand name), state)
  | .nothing => (none, state)
  | .value text => (state.check text).map some id

def answer (state : State) (line : String) : Option Reply × State :=
  state.run (.ofLine line)

def answerAll (state : State) : List String → List (Option Reply) × State
  | [] => ([], state)
  | line :: rest =>
    let (reply, state) := state.answer line
    let (replies, state) := state.answerAll rest
    (reply :: replies, state)

end State

end TypedConfig.Repl
