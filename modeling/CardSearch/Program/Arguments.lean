import CardSearch.Number.Integer
import CardSearch.Settings.Basic
import CardSearch.Text.Parts

/-!
# Command-line arguments

A command line is a command with its words, and switches and options between
them. The switches that concern every command may stand at any level: before the
command, after it, or after a command of that command. Each level is read and
checked by itself, from the innermost level outward, and no level takes a switch
or an option twice.

An argument is read when the next one is met, so that the first fault found is
not always the first one written: an unknown switch is reported before the value
in front of it.
-/

namespace CardSearch

/-- A shell for which completions can be made. -/
inductive Shell where
  | bash
  | zsh
  | fish
  | powershell
deriving DecidableEq, Repr

namespace Shell

def name : Shell → String
  | bash => "bash"
  | zsh => "zsh"
  | fish => "fish"
  | powershell => "powershell"

def all : List Shell := [bash, zsh, fish, powershell]

/-- The shell of a name. -/
def ofName? (s : String) : Option Shell := all.find? (·.name = s)

end Shell

/-- What is to be done with the settings. -/
inductive SettingsCommand where
  | show
  | path
  | set (key value : String)
deriving DecidableEq, Repr

inductive Command where
  | search (request : SearchRequest)
  | parse (words : List String)
  /-- A command for the settings; they are shown if there is none. -/
  | config (command : Option SettingsCommand)
  | completions (shell : Shell)
deriving DecidableEq, Repr

/-- A command line that has been read. -/
structure Invocation where
  verbose : Bool := false
  quiet : Bool := false
  json : Bool := false
  noColor : Bool := false
  /-- The path of the card file. -/
  cards : Option String := none
  command : Option Command := none
deriving DecidableEq, Repr

/-- What is wrong with a command line. -/
inductive UsageError where
  | unknownArgument
  | unknownCommand
  | missingArgument
  /-- An argument given twice, or two that exclude each other. -/
  | conflict
  /-- A value that is left out or not among those allowed. -/
  | invalidValue
  /-- A value that is not a number. -/
  | notANumber
  /-- A value for a switch. -/
  | unneededValue
deriving DecidableEq, Repr

namespace Arguments

/-- A switch is given or not. -/
inductive Switch where
  | verbose
  | quiet
  | json
  | noColor
  | desc
  | all
deriving DecidableEq, Repr

/-- An option has a value. -/
inductive ValueOption where
  | cards
  | sort
  | offset
  | limit
deriving DecidableEq, Repr

/-- A command, at the level of which switches, options and words are read. -/
inductive Level where
  | root
  | search
  | parse
  | config
  | completions
  | showSettings
  | setSetting
  | settingsPath
deriving DecidableEq, Repr

/-- Why the reading of a command line ends without an invocation. -/
inductive Ending where
  | refused (e : UsageError)
  /-- Help is asked for. -/
  | help
  /-- The version is asked for, at a level. -/
  | version (level : Level)
deriving DecidableEq, Repr

/-- What an argument that begins with hyphens stands for. -/
inductive Flag where
  | switch (s : Switch)
  | option (o : ValueOption)
  | help
  | version
deriving DecidableEq, Repr

/-- The words that a level takes. -/
inductive Words where
  /-- No more than a number of words, all of which have to be there. -/
  | exactly (n : Nat)
  /-- One word or more. -/
  | many
deriving DecidableEq, Repr

namespace Level

/-- The levels that a word may lead to. -/
def below : Level → List (String × Level)
  | root =>
    [("search", search), ("s", search), ("parse", parse), ("p", parse), ("config", config),
      ("completions", completions)]
  | config => [("show", showSettings), ("set", setSetting), ("path", settingsPath)]
  | _ => []

/-- The word that asks for help on a command, where there are commands. -/
def helpWord : String := "help"

def hasCommands (l : Level) : Bool := !l.below.isEmpty

/-- Whether a word is a command at the level. -/
def isCommand (l : Level) (word : String) : Bool :=
  l.hasCommands && (word = helpWord || (l.below.lookup word).isSome)

def words : Level → Words
  | search | parse => .many
  | completions => .exactly 1
  | setSetting => .exactly 2
  | _ => .exactly 0

/-- The long names of every level. -/
def commonNames : List (String × Flag) :=
  [("verbose", .switch .verbose), ("quiet", .switch .quiet), ("json", .switch .json),
    ("no-color", .switch .noColor), ("cards", .option .cards), ("help", .help),
    ("version", .version)]

/-- The long names of a level. -/
def longNames : Level → List (String × Flag)
  | search =>
    commonNames ++
      [("sort", .option .sort), ("desc", .switch .desc), ("offset", .option .offset),
        ("limit", .option .limit), ("all", .switch .all)]
  | _ => commonNames

end Level

/-- The flag of a letter after a single hyphen. -/
def shortFlag? : Char → Option Flag
  | 'v' => some (.switch .verbose)
  | 'q' => some (.switch .quiet)
  | 'h' => some .help
  | 'V' => some .version
  | _ => none

/-- What a level has been given. -/
structure Given where
  level : Level
  switches : List Switch := []
  options : List (ValueOption × String) := []
  words : List String := []
deriving DecidableEq, Repr

namespace Given

def has (g : Given) (s : Switch) : Bool := g.switches.contains s

def value? (g : Given) (o : ValueOption) : Option String := g.options.lookup o

/-- The number that an option gives. -/
def number? (g : Given) (o : ValueOption) : Option Nat :=
  (g.value? o).bind fun s => Number.readWord? s.toList

end Given

/-- An argument that has been met and not been read yet. -/
inductive Pending where
  /-- An option whose value is to follow. -/
  | awaiting (o : ValueOption)
  | value (o : ValueOption) (s : String)
  | word (s : String)
deriving DecidableEq, Repr

/-- The reading of a level: what has been given, and what is pending. -/
structure Scan where
  given : Given
  pending : Option Pending := none
  /-- Whether everything that follows is a word. -/
  wordsOnly : Bool := false
deriving DecidableEq, Repr

/-- A value is checked by its option. -/
def checkValue (o : ValueOption) (s : String) : Except Ending Unit :=
  match o with
  | .sort => .ok ()
  | .cards => if s = "" then .error (.refused .invalidValue) else .ok ()
  | .offset | .limit =>
    match Number.readWord? s.toList with
    | some _ => .ok ()
    | none => .error (.refused .notANumber)

namespace Scan

/-- The value of an option is taken. -/
def takeValue (scan : Scan) (o : ValueOption) (s : String) : Except Ending Scan :=
  if (scan.given.value? o).isSome then .error (.refused .conflict)
  else (checkValue o s).map fun _ =>
    { scan with given.options := scan.given.options ++ [(o, s)], pending := none }

/-- What is pending is read. -/
def settle (scan : Scan) : Except Ending Scan :=
  match scan.pending with
  | none => .ok scan
  | some (.awaiting _) => .error (.refused .invalidValue)
  | some (.value o s) => scan.takeValue o s
  | some (.word s) =>
    if scan.given.level = .completions ∧ Shell.ofName? s = none then
      .error (.refused .invalidValue)
    else .ok { scan with pending := none }

/-- A flag without a value is taken. -/
def takeFlag (scan : Scan) (f : Flag) : Except Ending Scan :=
  scan.settle.bind fun scan =>
    match f with
    | .switch s =>
      if scan.given.has s then .error (.refused .conflict)
      else .ok { scan with given.switches := scan.given.switches ++ [s] }
    | .option o => .ok { scan with pending := some (.awaiting o) }
    | .help => .error .help
    | .version => .error (.version scan.given.level)

/-- A flag with a value attached is taken. -/
def takeAttached (scan : Scan) (f : Flag) (s : String) : Except Ending Scan :=
  match f with
  | .option o => scan.settle.bind (·.takeValue o s)
  | _ => .error (.refused .unneededValue)

/-- An argument after two hyphens: a name, or a name and a value. -/
def takeLong (scan : Scan) (s : List Char) : Except Ending Scan :=
  let (name, value?) := match Text.cutAtFirst? '=' s with
    | none => (s, none)
    | some (name, value) => (name, some value)
  match scan.given.level.longNames.lookup (String.ofList name), value? with
  | none, _ => .error (.refused .unknownArgument)
  | some f, none => scan.takeFlag f
  | some f, some value => scan.takeAttached f (String.ofList value)

/-- Letters after a single hyphen. -/
def takeShort : Scan → List Char → Except Ending Scan
  | scan, [] => .ok scan
  | scan, c :: rest =>
    match shortFlag? c with
    | none => .error (.refused .unknownArgument)
    | some f => (scan.takeFlag f).bind (takeShort · rest)

/-- A word is taken, if the level has room for it. -/
def takeWord (scan : Scan) (s : String) : Except Ending Scan :=
  let room := match scan.given.level.words with
    | .many => true
    | .exactly n => scan.given.words.length < n
  if room then
    scan.settle.map fun scan =>
      { scan with given.words := scan.given.words ++ [s], pending := some (.word s) }
  else if scan.wordsOnly && scan.given.level.isCommand s then .error (.refused .unknownArgument)
  else if scan.given.level.hasCommands then .error (.refused .unknownCommand)
  else .error (.refused .unknownArgument)

/-- Whether the next argument may be a command. -/
def expectsCommand (scan : Scan) : Bool :=
  !scan.wordsOnly &&
    match scan.pending with
    | some (.awaiting _) => false
    | _ => true

/-- An argument that is not a command. -/
def take (scan : Scan) (arg : String) : Except Ending Scan :=
  if scan.wordsOnly then scan.takeWord arg
  else
    match arg.toList with
    | ['-', '-'] => .ok { scan with wordsOnly := true }
    | '-' :: '-' :: rest => scan.takeLong rest
    | '-' :: c :: rest => scan.takeShort (c :: rest)
    | _ =>
      match scan.pending with
      | some (.awaiting o) => .ok { scan with pending := some (.value o arg) }
      | _ => scan.takeWord arg

/-- Switches and options that exclude each other at a level. -/
def hasConflict (g : Given) : Bool :=
  g.has .verbose && g.has .quiet || g.has .all && (g.value? .limit).isSome

/-- Whether words are missing. -/
def lacksWords (g : Given) : Bool :=
  match g.level.words with
  | .many => g.words.isEmpty
  | .exactly n => g.words.length < n

/-- The end of a level; where it has no card file of its own, the environment's is checked. -/
def finish (scan : Scan) (cardsEnv : Option String) : Except Ending Given := do
  let g := (← scan.settle).given
  if (g.value? .cards).isNone ∧ cardsEnv = some "" then .error (.refused .invalidValue)
  else if hasConflict g then .error (.refused .conflict)
  else if lacksWords g then .error (.refused .missingArgument)
  else .ok g

end Scan

/-- What is said of a command after the word for help. -/
def helpOn : Level → List String → Ending
  | _, [] => .help
  | l, word :: rest =>
    if l.hasCommands ∧ word = Level.helpWord then
      if rest.isEmpty then .help else .refused .unknownCommand
    else
      match l.below.lookup word with
      | some inner => helpOn inner rest
      | none => .refused .unknownCommand

/-- What the levels have been given, from the outermost one to the innermost one. -/
def readLevels (cardsEnv : Option String) (scan : Scan) : List String → Except Ending (List Given)
  | [] => (scan.finish cardsEnv).map ([·])
  | arg :: rest =>
    if scan.expectsCommand && scan.given.level.isCommand arg then
      match scan.given.level.below.lookup arg with
      | none => .error (helpOn scan.given.level rest)
      | some inner =>
        (readLevels cardsEnv { given := { level := inner } } rest).bind fun levels =>
          (scan.finish cardsEnv).map (· :: levels)
    else (scan.take arg).bind fun scan => readLevels cardsEnv scan rest

/-- The settings command of a level. -/
def settingsCommand? (g : Given) : Option SettingsCommand :=
  match g.level, g.words with
  | .showSettings, _ => some .show
  | .settingsPath, _ => some .path
  | .setSetting, [key, value] => some (.set key value)
  | _, _ => none

/-- The search that a level asks for. -/
def searchRequest (g : Given) : SearchRequest :=
  { words := g.words, sortBy := g.value? .sort, descending := g.has .desc
    offset := (g.number? .offset).getD 0, limit := g.number? .limit, all := g.has .all }

/-- The command of the levels below the root. -/
def command? : List Given → Option Command
  | [] => none
  | g :: inner =>
    match g.level, g.words with
    | .search, _ => some (.search (searchRequest g))
    | .parse, words => some (.parse words)
    | .config, _ => some (.config (inner.head?.bind settingsCommand?))
    | .completions, [name] => (Shell.ofName? name).map .completions
    | _, _ => none

/-- The invocation of what the levels have been given; the innermost card file counts. -/
def invocation (cardsEnv : Option String) (levels : List Given) : Invocation :=
  let has (s : Switch) := levels.any (·.has s)
  { verbose := has .verbose, quiet := has .quiet, json := has .json, noColor := has .noColor
    cards := (levels.reverse.findSome? (·.value? .cards)).or cardsEnv
    command := command? levels.tail }

/-- The invocation of a command line, given the card file of the environment. -/
def read (cardsEnv : Option String) (args : List String) : Except Ending Invocation :=
  (readLevels cardsEnv { given := { level := .root } } args).map (invocation cardsEnv)

end Arguments

end CardSearch
