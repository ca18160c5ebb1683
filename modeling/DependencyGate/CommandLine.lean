import DependencyGate.CommandLine.Arguments
import DependencyGate.CommandLine.Packages
import DependencyGate.Declaration.Reader
import DependencyGate.GatedTask.Loop
import DependencyGate.Interface
import DependencyGate.Rehearsal
import DependencyGate.Settings
import DependencyGate.Text.Blank

/-!
# Commands

`check` polls the task of a file once, `wait` polls it until it is decided or the time
is up. Both print one row per item and the overall verdict. The exit code is 0 for
success, 1 for failure, 2 while the task waits or when the words cannot be read, and 3
for trouble that is reported. A fault that is neither an incident nor an unfit value
escapes. The names of zones, the addresses of databases and the markup of the console are
those of other packages.
-/

namespace DependencyGate.CommandLine

open Number (Binary64 Quantity)
open Rehearsal (HistorySource Stage)
open Time (Moment)

/-- What a file holds: a text, or bytes that are none. -/
inductive Contents
  | text (t : String)
  | undecodable (complaint : String)
deriving DecidableEq

structure Situation where
  packages : Packages
  environment : Environment
  /-- The text of the file in the working directory that adds to the environment. -/
  bindings? : Option String
  /-- The files that exist. -/
  file? : String → Option Contents
  /-- The database in a file. -/
  database : String → History.Database
  /-- The current time; without one, asking for it interrupts the command. -/
  now : Option Moment

structure Screen where
  rows : List (List String) := []
  lines : List String := []
deriving DecidableEq

inductive Ending
  | exit (code : Nat) (screen : Screen)
  | escaped (f : Foreign)
  /-- The command waits for ever. -/
  | endless
deriving DecidableEq

-- ---------------------------------------------------------------------------
-- Trouble
-- ---------------------------------------------------------------------------

inductive Trouble
  | fault (f : Fault)
  | interrupted

def usageCode : Nat := 2
def troubleCode : Nat := 3
def interruptCode : Nat := 130
def escapeCode : Nat := 1

/-- The exit code of a command that ends. -/
def Ending.code? : Ending → Option Nat
  | .exit code _ => some code
  | .escaped _ => some escapeCode
  | .endless => none

def verdictCode : Verdict → Nat
  | .success => 0
  | .failed => 1
  | .waiting => 2

def Packages.report (p : Packages) (message : String) : Ending :=
  match p.print s!"[red]Error: {message}[/red]" with
  | .ok line => .exit troubleCode { lines := [line] }
  | .error f => .escaped f

/-- Incidents and unfit values are reported; other faults escape. -/
def Packages.endingOf (p : Packages) : Fault → Ending
  | .own i => p.report i.text
  | .foreign f => if f.cls.isValueClass then p.report f.message else .escaped f

-- ---------------------------------------------------------------------------
-- Preparation
-- ---------------------------------------------------------------------------

/-- The environment with what a file in the working directory adds to it. -/
def Situation.fullEnvironment (s : Situation) : Environment :=
  (EnvironmentFile.loadFirst false [s.bindings?] s.environment).2

structure Prepared where
  settings : Settings
  task : GatedTask
  world : World Stage

def Situation.settings (s : Situation) (o : SettingsHolder.Overrides) : Except Fault Settings :=
  match (SettingsHolder.resolve s.packages.zones s.fullEnvironment o {}).1 with
  | .ok settings => .ok settings
  | .error p => .error (.foreign (.setting p))

def Contents.document : Contents → Except Foreign Json.Value
  | .text t => (Json.read (String.ofList (Text.singleBreaks t.toList))).mapError .document
  | .undecodable complaint => .error (.undecodable complaint)

def readParameters (contents : Contents) : Except Fault Parameters :=
  match contents.document with
  | .error f => .error (.foreign f)
  | .ok document => (Parameters.parse document).mapError .own

def Situation.historyIn (s : Situation) : History.Place → HistorySource
  | .empty => .kept none
  | .file path => .kept (s.database path)
  | .refused f => .refusing f

def Situation.openHistory (s : Situation) (address : String) : Except Fault HistorySource :=
  match s.packages.locate address with
  | .error f => .error (.foreign f)
  | .ok place => .ok (s.historyIn place)

def Situation.prepare (s : Situation) (file : String) (contents : Contents)
    (settings : Settings) : Except Fault Prepared := do
  let parameters ← readParameters contents
  let history ← s.openHistory settings.databaseUrl
  let zone ← (findZone s.packages.zones settings.timezone).mapError Fault.foreign
  let loaded := s!"Loaded {parameters.declarations.length} dependent declarations from {file}"
  let world : World Stage :=
    { state := ⟨.zoned zone, history⟩, journal := [⟨.debug, .commands, loaded⟩] }
  match GatedTask.make Stage.collaborators parameters world with
  | (.ok task, world) => return ⟨settings, task, world⟩
  | (.error f, _) => .error f

-- ---------------------------------------------------------------------------
-- Results
-- ---------------------------------------------------------------------------

def styleOf : Verdict → String
  | .success => "green"
  | .failed => "red"
  | .waiting => "yellow"

def styled (v : Verdict) : String := s!"[{styleOf v}]{v.name}[/{styleOf v}]"

def itemCells (number : Nat) (g : Gate) (item : Item) : List String :=
  [toString number, item.key.plain, item.definitionId.plain, item.target.plain, item.date.plain,
    styled ((g.settled? item.key).getD .waiting)]

def gateRows : Nat → List Gate → List (List String)
  | _, [] => []
  | number, g :: rest => g.items.map (itemCells number g) ++ gateRows (number + 1) rest

/-- A row whose cells have several lines, as rows of single lines. -/
def splitRow (cells : List String) : List (List String) :=
  let lines := cells.map fun cell => cell.splitOn "\n"
  let height := (lines.map List.length).foldl max 1
  (List.range height).map fun i => lines.map fun cell => cell.getD i ""

def Packages.resultScreen (p : Packages) (t : GatedTask) : Except Foreign Screen := do
  let rows ← (gateRows 1 t.gates).mapM fun cells => cells.mapM p.print
  let overall ← p.print s!"Overall: {styled t.verdict}"
  return { rows := rows.flatMap splitRow, lines := [overall] }

def Packages.showResults (p : Packages) (t : GatedTask) (code : Nat) : Ending :=
  match p.resultScreen t with
  | .ok screen => .exit code screen
  | .error f => .escaped f

-- ---------------------------------------------------------------------------
-- The commands
-- ---------------------------------------------------------------------------

/-- The moment to check at: the one given, or the current time. -/
def Situation.checkTime (s : Situation) (given : Option String) : Except Trouble Moment :=
  match given.filter (· != "") with
  | some text =>
    match Moment.parse text with
    | .ok m => .ok m
    | .error f => .error (.fault (.foreign (.momentText f)))
  | none =>
    match s.now with
    | some m => .ok m
    | none => .error .interrupted

def check (s : Situation) (file : String) (contents : Contents)
    (database timezone moment : Option String) : Ending :=
  match s.checkTime moment with
  | .error .interrupted => .exit interruptCode {}
  | .error (.fault f) => s.packages.endingOf f
  | .ok reference =>
    let prepared := do
      s.prepare file contents (← s.settings { timezone := timezone, databaseUrl := database })
    match prepared with
    | .error f => s.packages.endingOf f
    | .ok p =>
      match GatedTask.poll Stage.collaborators reference (p.task, p.world) with
      | (.error f, _) => s.packages.endingOf f
      | (.ok _, task, _) => s.packages.showResults task (verdictCode task.verdict)

def shortestPause : Binary64 := .ofRatio false 1 100

def pause (s : Settings) : Binary64 :=
  match s.pollInterval.place? with
  | some _ => if s.pollInterval.le (.real shortestPause) then shortestPause
    else s.pollInterval.toBinary64
  | none => shortestPause

/-- Surroundings in which only the given pause passes while the loop waits. -/
def stillSurroundings (now : Moment) (pause : Binary64) : Surroundings Binary64 Stage where
  read := fun _ elapsed stage => ((now, false), elapsed, stage)
  wait := fun elapsed => (false, elapsed.add pause)
  elapsed := Binary64.place?

/-- More turns than fit into the time limit; without a limit, the one turn that decides. -/
def turnsFor (limit : Option Quantity) (pause : Binary64) : Nat :=
  match limit.bind Quantity.place?, pause.place? with
  | some (.at l), some (.at p) => (l / p).toNat + 3
  | _, _ => 1

def wait (s : Situation) (file : String) (contents : Contents) (o : SettingsHolder.Overrides) :
    Ending :=
  let prepared := do s.prepare file contents (← s.settings o)
  match prepared, s.now with
  | .error f, _ => s.packages.endingOf f
  | .ok _, none => .exit usageCode { lines := ["Interrupted"] }
  | .ok p, some now =>
    let pause := pause p.settings
    let (answer, state) := GatedTask.run Stage.collaborators (stillSurroundings now pause)
      p.settings.timeout (turnsFor p.settings.timeout pause) ⟨.zero false, p.task, p.world⟩
    match answer with
    | none => .endless
    | some (.error f) => s.packages.endingOf f
    | some (.ok v) => s.packages.showResults state.task (verdictCode v)

def waitOverrides (database timezone : Option String) (interval timeout : Option Binary64) :
    SettingsHolder.Overrides where
  pollInterval := interval.map .real
  timeout := timeout.map .real
  timezone := timezone
  databaseUrl := database

def run (s : Situation) (words : List String) : Ending :=
  match Command.read words with
  | none => .exit usageCode {}
  | some .help => .exit 0 {}
  | some .version => .exit 0 { lines := [s!"depflow version {Interface.version}"] }
  | some (.check file database timezone moment) =>
    match s.file? file with
    | none => .exit usageCode {}
    | some contents => check s file contents database timezone moment
  | some (.wait file database timezone interval timeout) =>
    match s.file? file with
    | none => .exit usageCode {}
    | some contents => wait s file contents (waitOverrides database timezone interval timeout)

end DependencyGate.CommandLine
