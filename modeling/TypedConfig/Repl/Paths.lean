namespace TypedConfig.Repl

/-- What the environment says about places for files. -/
structure Environment where
  home : String
  configHome : Option String := none
  dataHome : Option String := none
  deriving DecidableEq, Repr

namespace Environment

/-- A path below a directory. -/
def below (directory name : String) : String :=
  if directory.toList.getLast? = some '/' then directory ++ name else directory ++ "/" ++ name

/-- A directory that the environment names, if its path starts at the root. -/
def absolute? (directory : Option String) : Option String :=
  directory.filter fun path => path.toList.head? = some '/'

def configDir (env : Environment) : String :=
  below ((absolute? env.configHome).getD (below env.home ".config")) "typeconv"

def dataDir (env : Environment) : String :=
  below ((absolute? env.dataHome).getD (below env.home ".local/share")) "typeconv"

def configFile (env : Environment) : String := below env.configDir "config.toml"

/-- The file of the lines that were entered. -/
def historyFile (env : Environment) : String := below env.dataDir "history.txt"

/-- The environment; a home that is not named, or not by a name, is the account's. -/
def ofVariables (accountHome : String) (home configHome dataHome : Option String) :
    Environment where
  home := (home.filter fun path => !path.isEmpty).getD accountHome
  configHome := configHome
  dataHome := dataHome

end Environment

end TypedConfig.Repl
