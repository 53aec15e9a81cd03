import CardSearch.Program.Arguments

/-!
# Paths

Where the program looks for its settings and its cards. A path that is named
outright comes first; else there are directories for settings and for data, of
which the environment may name others than those under the home directory.
-/

namespace CardSearch

/-- The variables of the environment that the program looks at. -/
structure Environment where
  home : Option String := none
  dataHome : Option String := none
  configHome : Option String := none
  configFile : Option String := none
  cardFile : Option String := none
  noColor : Option String := none
deriving DecidableEq, Repr

/-- A name below a directory. -/
def joinPath (dir name : String) : String :=
  if dir = "" then name
  else if dir.toList.getLast? = some '/' then dir ++ name
  else dir ++ "/" ++ name

namespace Environment

/-- The home directory, unless its name is empty. -/
def home? (env : Environment) : Option String := env.home.filter (· ≠ "")

/-- The directory for data; one that the environment names counts only if its path is absolute. -/
def dataDirectory? (env : Environment) : Option String :=
  (env.dataHome.filter fun dir => dir.toList.head? = some '/').or
    (env.home?.map fun home => joinPath home ".local/share")

/-- The directory for settings. -/
def configDirectory? (env : Environment) : Option String :=
  env.configHome.or (env.home?.map (joinPath · ".config"))

/-- The card file when no other is named. -/
def defaultCards? (env : Environment) : Option String :=
  env.dataDirectory?.map fun dir => joinPath (joinPath dir "rq") "cards.json"

/-- The settings file. -/
def settingsPath? (env : Environment) : Option String :=
  env.configFile.or (env.configDirectory?.map fun dir => joinPath (joinPath dir "rq") "config.toml")

end Environment

/-- The card file of a search: as the command line says, else the settings, else the default. -/
def cardsPath? (env : Environment) (inv : Invocation) (s : Settings) : Option String :=
  (inv.cards.or s.cards).or env.defaultCards?

end CardSearch
