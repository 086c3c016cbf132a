import TypedConfig.Repl.Paths
import TypedConfig.Repl.Terminal

namespace TypedConfig.Repl

/-- The configuration of the user; the default one if there is no file. -/
def loadConfig (path : String) : IO (Except Config.LoadError Config) := do
  try
    return Config.load path (some (← IO.FS.readFile path))
  catch
    | .noFileOrDirectory .. => return .ok {}
    | _ => return Config.load path none

def chomp (line : String) : String := ((Text.lines line).head?).getD ""

/-- Answers lines until the user leaves or the input ends. -/
partial def converse (input output : IO.FS.Stream) (state : State) : IO Unit := do
  output.putStr (Terminal.prompt state)
  output.flush
  let line ← input.getLine
  if line.isEmpty then
    output.putStr Terminal.farewell
  else
    let (text, state) := Terminal.respond state (chomp line)
    output.putStr text
    unless state.quit do converse input output state

end TypedConfig.Repl

open TypedConfig.Repl in
/-- Reads the configuration and answers the lines of the standard input. -/
def main : IO UInt32 := do
  let output ← IO.getStdout
  output.putStr Terminal.banner
  let env := Environment.ofVariables "/root" (← IO.getEnv "HOME") (← IO.getEnv "XDG_CONFIG_HOME")
    (← IO.getEnv "XDG_DATA_HOME")
  match ← loadConfig env.configFile with
  | .error error =>
    (← IO.getStderr).putStrLn ("Error: " ++ error.message)
    return 1
  | .ok config =>
    converse (← IO.getStdin) output (.start config)
    return 0
