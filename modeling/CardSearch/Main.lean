import CardSearch.Program.Run
import Std.Time.DateTime.Timestamp

/-!
# The program

Reads what a run depends on, and does what comes of it: the environment, the
settings file, the card file of a search, the clock and a seed for shuffling on
the one side, the two outputs, the saved file and the exit status on the other.
-/

namespace CardSearch.Main

def readFile (path : String) : IO File := do
  try
    return File.ofBytes (← IO.FS.readBinFile path)
  catch
    | .noFileOrDirectory .. => return .missing
    | _ => return .unreadable

def readEnvironment : IO Environment := do
  return {
    home := ← IO.getEnv "HOME"
    dataHome := ← IO.getEnv "XDG_DATA_HOME"
    configHome := ← IO.getEnv "XDG_CONFIG_HOME"
    configFile := ← IO.getEnv "RQ_CONFIG"
    cardFile := ← IO.getEnv "RQ_CARDS"
    noColor := ← IO.getEnv "NO_COLOR" }

def readClock : IO Time.Instant := do
  return Time.Instant.ofNanos (← Std.Time.Timestamp.now).toNanosecondsSinceUnixEpoch.val

/-- Ranks that differ from run to run. -/
def readRanks : IO (Nat → Nat) := do
  let seed ← IO.rand 0 4611686018427387904
  return fun position => (mixHash (hash seed) (hash position)).toNat

/-- The files with one more that has been read. -/
def withFile (files : String → File) (path : Option String) : IO (String → File) :=
  match path with
  | none => return files
  | some path => do
    let file ← readFile path
    return fun p => if p = path then file else files p

/-- The part of a path before its last slash. -/
def directoryOf (path : String) : String :=
  String.ofList ((path.toList.reverse.dropWhile (· ≠ '/')).drop 1).reverse

/-- Saves a file, and tells what went wrong if it could not. -/
def save (file : SavedFile) : IO (Option SettingsError) := do
  let dir := directoryOf file.path
  try
    if dir ≠ "" then IO.FS.createDirAll dir
  catch _ => return some (.noDirectory dir)
  try
    IO.FS.writeFile file.path file.content
    return none
  catch _ => return some (.unsaved file.path)

/-- Saves the file of an outcome, which fails if it cannot be saved. -/
def settle (inv : Invocation) (o : Outcome) : IO Outcome := do
  match o.saved with
  | none => return o
  | some file =>
    match ← save file with
    | none => return o
    | some e => return Program.notSaved inv o e

/-- The outcome of a command line. -/
def outcomeOf (args : List String) : IO Outcome := do
  let env ← readEnvironment
  match Arguments.read env.cardFile args with
  | .error e => return Program.ended e
  | .ok inv =>
    let files ← withFile (fun _ => .missing) env.settingsPath?
    let w : World := { env, files, now := ← readClock, rank := ← readRanks }
    let files ← withFile files (Program.cardsFile? w inv)
    settle inv (Program.perform { w with files } inv)

end CardSearch.Main

def main (args : List String) : IO UInt32 := do
  let o ← CardSearch.Main.outcomeOf args
  (← IO.getStderr).putStr o.errors
  (← IO.getStdout).putStr o.output
  return o.status.toUInt32
