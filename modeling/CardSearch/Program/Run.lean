import CardSearch.Program.Error
import CardSearch.Program.Paths
import CardSearch.Program.Usage
import CardSearch.Report.Page
import CardSearch.Report.QueryJson
import CardSearch.Report.SettingsReport
import CardSearch.Report.Table
import CardSearch.Report.Tree
import CardSearch.Settings.Assignment
import CardSearch.Settings.Format

/-!
# Runs of the program

A run takes the arguments, the environment, the files, the present instant and
ranks for shuffling, and tells what is written to the two outputs, with which
status the program exits and which file is to be saved. It does nothing by
itself, so that a run is the same wherever it takes place.
-/

namespace CardSearch

/-- A text to be saved at a path. -/
structure SavedFile where
  path : String
  content : String
deriving DecidableEq, Repr

/-- What comes of a run. -/
structure Outcome where
  status : Nat := 0
  output : String := ""
  errors : String := ""
  saved : Option SavedFile := none
deriving DecidableEq, Repr

/-- What a run depends on. -/
structure World where
  env : Environment
  files : String → File
  now : Time.Instant
  rank : Nat → Nat

/-- Whether reports are styled. -/
def usesColor (env : Environment) (inv : Invocation) (color : Option Bool) : Bool :=
  !inv.noColor && !(env.noColor.any (· ≠ "")) && color.getD true

/-- How much of what happens is logged. -/
inductive LogLevel where
  | error
  | warn
  | debug
deriving DecidableEq, Repr

namespace Invocation

/-- The level at which is logged; being verbose counts more than being quiet. -/
def logLevel (inv : Invocation) : LogLevel :=
  if inv.verbose then .debug else if inv.quiet then .error else .warn

end Invocation

namespace Program

/-- The parts of the program that warn. -/
def queryPart : String := "recall_search::search::parser"
def settingsPart : String := "rq::commands::config"
def mainPart : String := "rq"

/-- The lines of warnings, unless only errors are logged. -/
def warningLines (inv : Invocation) (part : String) (texts : List String) : List String :=
  if inv.logLevel = .error then [] else texts.map fun t => "[WARN  " ++ part ++ "] " ++ t

/-- A value as JSON over several lines, with a line feed after it. -/
def jsonText (v : Json) : String := v.pretty ++ "\n"

/-- The lines that report an error. -/
def errorText (inv : Invocation) (e : RunError) : String :=
  if inv.json then
    jsonText (.object [("error",
      .object [("code", .string e.code), ("message", .string e.message)])])
  else linesText ["Error: " ++ e.message]

/-- A run that fails after some lines of its log. -/
def failed (inv : Invocation) (log : List String) (e : RunError) : Outcome :=
  { status := e.exitStatus, errors := linesText log ++ errorText inv e }

/-- A run that succeeds with its output and some lines of its log. -/
def succeeded (log : List String) (output : String) : Outcome :=
  { output, errors := linesText log }

/-- The settings, read from their file. -/
def loadSettings (w : World) : Except SettingsError Settings :=
  match w.env.settingsPath? with
  | none => .error .noPlace
  | some path => Settings.load path (w.files path)

/-- The warnings that loaded settings give rise to. -/
def settingsLog (inv : Invocation) (s : Settings) : List String :=
  warningLines inv settingsPart s.warnings

/-- The settings where they only decide on colours, and what is logged: faulty ones are left out. -/
def lenientSettings (w : World) (inv : Invocation) : Settings × List String :=
  match loadSettings w with
  | .ok s => (s, settingsLog inv s)
  | .error e => ({}, warningLines inv mainPart [(RunError.settings e).message])

/-- The warnings of a query. -/
def queryLog (w : World) (inv : Invocation) (text : String) : List String :=
  warningLines inv queryPart ((Query.ofString w.now text).warnings.map (·.message))

/-- The output of a page. -/
def pageOutput (w : World) (inv : Invocation) (s : Settings) (o : Search.Options)
    (p : Search.Page) : String :=
  if inv.json then jsonText (p.json o)
  else if inv.quiet then ""
  else String.ofList (Report.pageTable (usesColor w.env inv s.color) w.now p o)

/-- A search in the card file at a path. -/
def searchIn (w : World) (inv : Invocation) (s : Settings) (r : SearchRequest) (path : String) :
    Outcome :=
  let o := r.options s.search
  let text := joinWords r.words
  let log := settingsLog inv s ++ (if inv.verbose then ["Searching " ++ path] else []) ++
    queryLog w inv text
  match Search.runSource w.rank (Store.load (w.files path)) text w.now o with
  | .error (.query e) => failed inv log (.query e)
  | .error (.source e) => failed inv log (.store path e)
  | .ok p => succeeded log (pageOutput w inv s o p)

def search (w : World) (inv : Invocation) (r : SearchRequest) : Outcome :=
  match loadSettings w with
  | .error e => failed inv [] (.settings e)
  | .ok s =>
    match cardsPath? w.env inv s with
    | none => failed inv (settingsLog inv s) .noCards
    | some path => searchIn w inv s r path

/-- The reading of a query is shown. -/
def parse (w : World) (inv : Invocation) (words : List String) : Outcome :=
  let (s, log) := lenientSettings w inv
  let text := joinWords words
  let log := log ++ queryLog w inv text
  match (Query.ofString w.now text).result with
  | .error e => failed inv log (.query e)
  | .ok q =>
    succeeded log
      (if inv.json then q.report w.now ++ "\n"
       else if inv.quiet then ""
       else String.ofList (Report.queryTree (usesColor w.env inv s.color) q))

/-- The settings are shown. -/
def showSettings (w : World) (inv : Invocation) (path : String) (color : Option Bool)
    (log : List String) : Outcome :=
  let isPresent := (w.files path).isPresent
  match loadSettings w with
  | .error e => failed inv log (.settings e)
  | .ok s =>
    succeeded (log ++ settingsLog inv s)
      (if inv.json then
        jsonText (.object [("config", s.json), ("exists", .bool isPresent), ("path", .string path)])
       else if inv.quiet then ""
       else linesText (Report.settingsLines (usesColor w.env inv color) path isPresent s))

/-- The path of the settings file is shown. -/
def showPath (w : World) (inv : Invocation) (path : String) (log : List String) : Outcome :=
  succeeded log
    (if inv.json then
      jsonText (.object [("exists", .bool (w.files path).isPresent), ("path", .string path)])
     else linesText [path])

/-- The content of the settings file with a value set. -/
def changedFile (file : File) (path key value : String) : Except SettingsError String :=
  ((Settings.load path file).bind (·.set key value)).bind (·.encode)

/-- A setting is changed. -/
def setSetting (w : World) (inv : Invocation) (path key value : String) (log : List String) :
    Outcome :=
  let log := log ++ match loadSettings w with
    | .ok s => settingsLog inv s
    | .error _ => []
  match changedFile (w.files path) path key value with
  | .error e => failed inv log (.settings e)
  | .ok content =>
    { succeeded log
        (if inv.json then
          jsonText (.object [("key", .string key), ("path", .string path),
            ("status", .string "success"), ("value", .string value)])
         else if inv.quiet then ""
         else linesText ["Set " ++ key ++ " = " ++ value]) with
      saved := some ⟨path, content⟩ }

/-- The outcome of a run whose file could not be saved. -/
def notSaved (inv : Invocation) (o : Outcome) (e : SettingsError) : Outcome :=
  { status := (RunError.settings e).exitStatus
    errors := o.errors ++ errorText inv (.settings e) }

/-- A command for the settings. -/
def config (w : World) (inv : Invocation) (c : Option SettingsCommand) : Outcome :=
  let (s, log) := lenientSettings w inv
  match w.env.settingsPath? with
  | none => failed inv log (.settings .noPlace)
  | some path =>
    match c.getD .show with
    | .show => showSettings w inv path s.color log
    | .path => showPath w inv path log
    | .set key value => setSetting w inv path key value log

/-- A command line that has been read is carried out. -/
def perform (w : World) (inv : Invocation) : Outcome :=
  match inv.command with
  | none => { output := linesText helpLines }
  | some (.search r) => search w inv r
  | some (.parse words) => parse w inv words
  | some (.config c) => config w inv c
  | some (.completions shell) => { output := linesText shell.script }

/-- The card file that a run reads besides the settings. -/
def cardsFile? (w : World) (inv : Invocation) : Option String :=
  match inv.command, loadSettings w with
  | some (.search _), .ok s => cardsPath? w.env inv s
  | _, _ => none

/-- The outcome of a command line that does not come to a command. -/
def ended : Arguments.Ending → Outcome
  | .help => { output := linesText helpLines }
  | .version l => { output := linesText [versionLine l] }
  | .refused e => { status := 2, errors := e.report }

/-- The outcome of a command line. -/
def run (w : World) (args : List String) : Outcome :=
  match Arguments.read w.env.cardFile args with
  | .error e => ended e
  | .ok inv => perform w inv

end Program

end CardSearch
