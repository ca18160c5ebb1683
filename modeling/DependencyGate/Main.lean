import DependencyGate.CommandLine
import DependencyGate.History.Document
import Std.Time.Zoned

/-!
# The program

The outer layer: it reads the environment, the files and the clock, runs a command and
prints what the command shows. A history file holds a document as `Database.read` takes
it; a file that cannot be read counts as a database without tables.
-/

namespace DependencyGate.CommandLine

open Number (Binary64 Quantity)
open Rehearsal (HistorySource Stage)
open Time (Moment)

def settingNames : List String :=
  ["DEPFLOW_POLL_INTERVAL", "DEPFLOW_DEPENDENT_TIMEOUT", "DEPFLOW_TIMEZONE",
   "DEPFLOW_DATABASE_URL"]

def readEnvironment : IO Environment := do
  let entries ← settingNames.mapM fun name => do
    return (← IO.getEnv name).map fun value => (name, value)
  return entries.filterMap id

def readText? (path : String) : IO (Option String) := do
  try
    let text ← IO.FS.readFile path
    return some text
  catch _ => return none

def readContents? (path : String) : IO (Option Contents) := do
  try
    let bytes ← IO.FS.readBinFile path
    match String.fromUTF8? bytes with
    | some text => return some (.text text)
    | none => return some (.undecodable "'utf-8' codec can't decode the file")
  catch _ => return none

def epochWall : Int := 719162 * Time.dayLength

def readClock : IO Moment := do
  let now ← Std.Time.PlainDateTime.now
  let passed := now.toWallTime.val
  let micros := passed.second.val * Time.second + passed.nano.val / 1000
  match Moment.ofWall (epochWall + micros) none with
  | .ok m => return m
  | .error _ => return default

def readDatabase (path : String) : IO History.Database := do
  match ← readText? path with
  | none => return none
  | some text =>
    match Json.read text with
    | .error _ => return none
    | .ok document =>
      match History.Database.read document with
      | .ok db => return db
      | .error _ => return none

def Command.inputs : Command → Option (String × SettingsHolder.Overrides)
  | .check file database timezone _ =>
    some (file, { timezone := timezone, databaseUrl := database })
  | .wait file database timezone interval timeout =>
    some (file, waitOverrides database timezone interval timeout)
  | _ => none

def readSituation (command : Option Command) : IO Situation := do
  let environment ← readEnvironment
  let now ← readClock
  let bindings ← readText? ".env"
  let bare : Situation :=
    { packages := .known
      environment := environment
      bindings? := bindings
      file? := fun _ => none
      database := fun _ => none
      now := some now }
  match command.bind Command.inputs with
  | none => return bare
  | some (file, overrides) =>
    let contents ← readContents? file
    let withFile : Situation :=
      { bare with file? := fun path => if path = file then contents else none }
    match withFile.settings overrides with
    | .error _ => return withFile
    | .ok settings =>
      match Packages.known.locate settings.databaseUrl with
      | .ok (.file path) =>
        let db ← readDatabase path
        return { withFile with database := fun p => if p = path then db else none }
      | _ => return withFile

def showScreen (screen : Screen) : IO Unit := do
  for row in screen.rows do
    IO.println (" │ ".intercalate row)
  for line in screen.lines do
    IO.println line

def finish (ending : Ending) : IO UInt32 := do
  match ending with
  | .exit _ screen => showScreen screen
  | .escaped f => IO.eprintln s!"{f.cls.name}: {f.message}"
  | .endless => pure ()
  return (ending.code?.getD usageCode).toUInt32

def secondsOf (milliseconds : Nat) : Binary64 := .ofRatio false milliseconds 1000

def millisecondsOf (pause : Binary64) : Nat :=
  match pause with
  | .finite false mantissa exponent =>
    if 0 ≤ exponent then mantissa * Number.twoTo exponent.toNat * 1000
    else mantissa * 1000 / Number.twoTo (-exponent).toNat
  | _ => 1000

/-- The loop in real time: the clock and the history are read anew before every poll. -/
partial def waitLoop (path? : Option String) (settings : Settings) (started : Nat)
    (state : GatedTask.LoopState Binary64 Stage) : IO UInt32 := do
  let now ← readClock
  let elapsed := secondsOf ((← IO.monoMsNow) - started)
  let history ← match path? with
    | some path => pure (HistorySource.kept (← readDatabase path))
    | none => pure state.world.state.history
  let stage : Stage := { state.world.state with history := history }
  let state :=
    { state with surroundings := elapsed, world := { state.world with state := stage } }
  let pause := pause settings
  match GatedTask.turn Stage.collaborators (stillSurroundings now pause) settings.timeout state with
  | (some (.ok v), state) => finish (Packages.known.showResults state.task (verdictCode v))
  | (some (.error f), _) => finish (Packages.known.endingOf f)
  | (none, state) =>
    IO.sleep (millisecondsOf pause).toUInt32
    waitLoop path? settings started state

def waitCommand (s : Situation) (file : String) (contents : Contents)
    (o : SettingsHolder.Overrides) : IO UInt32 := do
  match s.settings o with
  | .error f => finish (Packages.known.endingOf f)
  | .ok settings =>
    match s.prepare file contents settings with
    | .error f => finish (Packages.known.endingOf f)
    | .ok p =>
      let path? := match Packages.known.locate settings.databaseUrl with
        | .ok (.file path) => some path
        | _ => none
      waitLoop path? settings (← IO.monoMsNow) ⟨.zero false, p.task, p.world⟩

end DependencyGate.CommandLine

open DependencyGate.CommandLine in
def main (words : List String) : IO UInt32 := do
  let command := Command.read words
  let situation ← readSituation command
  match command with
  | some (.wait file database timezone interval timeout) =>
    match situation.file? file with
    | none => return usageCode.toUInt32
    | some contents =>
      waitCommand situation file contents (waitOverrides database timezone interval timeout)
  | _ => finish (run situation words)
