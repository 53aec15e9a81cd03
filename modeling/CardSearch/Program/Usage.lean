import CardSearch.Program.Arguments
import CardSearch.Text.Line

/-!
# Usage

What the program says of itself: its version, how it is called, what is wrong
with a command line, and the completions of a shell.
-/

namespace CardSearch

/-- The name and the version of the program. -/
def programName : String := "rq"
def programVersion : String := "0.1.0"

namespace Arguments.Level

/-- The names of the commands that lead to a level. -/
def names : Level → List String
  | root => []
  | search => ["search"]
  | parse => ["parse"]
  | config => ["config"]
  | completions => ["completions"]
  | showSettings => ["config", "show"]
  | setSetting => ["config", "set"]
  | settingsPath => ["config", "path"]

end Arguments.Level

/-- The line that tells the version. -/
def versionLine (l : Arguments.Level) : String :=
  "-".intercalate (programName :: l.names) ++ " " ++ programVersion

/-- The lines that tell how the program is called. -/
def helpLines : List String :=
  ["rq - search a spaced-repetition card collection",
   "",
   "Usage: rq [OPTIONS] [COMMAND]",
   "",
   "Commands:",
   "  search       Search cards",
   "  parse        Show how a query is compiled",
   "  config       Manage configuration (show, set, path)",
   "  completions  Generate shell completions (bash, zsh, fish, powershell)",
   "  help         Print this message",
   "",
   "Options:",
   "  -v, --verbose        Verbose output",
   "  -q, --quiet          Quiet mode (errors only)",
   "      --json           Output JSON instead of tables",
   "      --no-color       Disable colors in output",
   "      --cards <CARDS>  Card file to search",
   "  -h, --help           Print help",
   "  -V, --version        Print version",
   "",
   "Options of search:",
   "      --sort <FIELD>   Sort field when the query has no sortBy",
   "      --desc           Sort descending when the query has no sortBy",
   "      --offset <N>     Skip this many matches",
   "      --limit <N>      Maximum number of matches to show",
   "      --all            Show all matches"]

/-- Strings as lines. -/
def linesText (lines : List String) : String :=
  String.ofList (Text.ofLines (lines.map (·.toList)))

namespace UsageError

/-- The wording of an error. -/
def message : UsageError → String
  | unknownArgument => "unexpected argument"
  | unknownCommand => "unrecognized subcommand"
  | missingArgument => "the required arguments were not provided"
  | conflict => "the argument cannot be used multiple times or with another one"
  | invalidValue => "a value is required or not among the possible values"
  | notANumber => "invalid value: not a number"
  | unneededValue => "unexpected value for an argument without one"

/-- The lines that report an error. -/
def report (e : UsageError) : String :=
  linesText ["error: " ++ e.message, "", "For more information, try '--help'."]

end UsageError

/-- The words that may follow the name of the program. -/
def commandWords : String := "search parse config completions help"

namespace Shell

/-- The lines that make a shell complete the commands of the program. -/
def script : Shell → List String
  | bash => ["complete -W \"" ++ commandWords ++ "\" rq"]
  | zsh => ["#compdef rq", "_arguments '1: :(" ++ commandWords ++ ")' '*::arg:_default'"]
  | fish => ["complete -c rq -n __fish_use_subcommand -a \"" ++ commandWords ++ "\""]
  | powershell =>
    ["Register-ArgumentCompleter -Native -CommandName rq -ScriptBlock \x7b", "  param($word)",
     "  '" ++ commandWords ++ "' -split ' ' | Where-Object \x7b $_ -like \"$word*\" \x7d", "\x7d"]

end Shell

end CardSearch
