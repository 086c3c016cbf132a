import TypedConfig.Repl.Basic

namespace TypedConfig.Repl.Terminal

def banner : String := "typeconv v0.3.0\nType /help for commands, /quit to exit.\n\n"

def prompt (state : State) : String := state.signature.getD "typeconv" ++ "> "

def inColour (code : String) (line : String) : String :=
  "\x1b[" ++ code ++ "m" ++ line ++ "\x1b[39m"

/-- A line of an answer: what is wrong is red, and a value that is accepted is green. -/
def paintLine (line : String) : String :=
  if "[".isPrefixOf line || "Error".isPrefixOf line || "Parse error".isPrefixOf line then
    inColour "31" line
  else if line = "ok" then inColour "32" line
  else line

def paint (text : String) : String := "\n".intercalate ((Text.lines text).map paintLine)

/-- What is written when the input ends. -/
def farewell : String := "^D\n"

def respond (state : State) (line : String) : String × State :=
  let (reply, state) := state.answer line
  match reply with
  | none => ("", state)
  | some reply => (paint reply.render ++ "\n", state)

/-- What is written for lines, until the user leaves or the input ends. -/
def dialogue (state : State) : List String → String
  | [] => prompt state ++ farewell
  | line :: rest =>
    let (text, next) := respond state line
    prompt state ++ text ++ if next.quit then "" else dialogue next rest

/-- Everything that is written for an input, and whether the configuration was fit to start. -/
def transcript (config : Except Config.LoadError Config) (input : String) : String × Bool :=
  match config with
  | .error _ => (banner, false)
  | .ok config => (banner ++ dialogue (.start config) (Text.lines input), true)

end TypedConfig.Repl.Terminal
