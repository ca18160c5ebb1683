import DependencyGate.Collaborator
import DependencyGate.History.Table
import DependencyGate.Number.Literal

/-!
# Lookups

Four questions to the history tables. Each of the first three considers the rows of a
process definition that match its window, and reads only the greatest of them by time
and then id; a missing time is the earliest. The fourth lists the flagged rows of a
process, the latest started first. A row that cannot be read is an incident, and no
other row is read in its place.
-/

namespace DependencyGate

open Json (Value)
open Number (Binary64 decimal? isPadding takeSign)
open Time (Moment Interval)

inductive History.Lookup
  | running
  | scheduled
  | manual
  | tasks
deriving DecidableEq, Repr

def History.Lookup.name : History.Lookup → String
  | .running => "find_running_execution"
  | .scheduled => "find_latest_scheduled_execution"
  | .manual => "find_latest_manual_execution"
  | .tasks => "list_valid_task_executions"

def Incident.historyFailed (lookup : History.Lookup) (f : Foreign) : Incident where
  kind := .storage
  message := s!"History query {lookup.name} failed"
  what := some "Execution history query failed"
  howToFix := some "Check that the history database is reachable and migrated"
  context := [("operation", .str lookup.name)]
  cause := some f

def Incident.invalidRow (lookup : History.Lookup) (f : Foreign) : Incident where
  kind := .storage
  message := s!"History query {lookup.name} returned an invalid row: {f.message}"
  context := [("operation", .str lookup.name)]
  cause := some f

namespace History

-- ---------------------------------------------------------------------------
-- Order
-- ---------------------------------------------------------------------------

/-- The place of a time in the order of the tables: a missing one is before all others. -/
def timeRank (m : Option Moment) : Int :=
  match m with
  | some m => m.wall
  | none => -1

def earlier (time₁ : Option Moment) (id₁ : Int) (time₂ : Option Moment) (id₂ : Int) : Bool :=
  timeRank time₁ < timeRank time₂ || (timeRank time₁ == timeRank time₂ && id₁ < id₂)

def ProcessRow.startsBefore (a b : ProcessRow) : Bool := earlier a.start a.id b.start b.id
def ProcessRow.stopsBefore (a b : ProcessRow) : Bool := earlier a.stop a.id b.stop b.id
def TaskRow.startsBefore (a b : TaskRow) : Bool := earlier a.start a.id b.start b.id

def greatest? {α : Type} (before : α → α → Bool) : List α → Option α
  | [] => none
  | a :: rest =>
    match greatest? before rest with
    | none => some a
    | some b => if before a b then some b else some a

def insertDescending {α : Type} (before : α → α → Bool) (a : α) : List α → List α
  | [] => [a]
  | b :: rest => if before a b then b :: insertDescending before a rest else a :: b :: rest

def descending {α : Type} (before : α → α → Bool) (items : List α) : List α :=
  items.foldr (insertDescending before) []

-- ---------------------------------------------------------------------------
-- Windows
-- ---------------------------------------------------------------------------

/-- The clock reading lies in the interval, as the clocks of its ends read; none does not. -/
def inWindow (i : Interval) (m : Option Moment) : Bool :=
  match m with
  | some m => i.start.wall ≤ m.wall && m.wall ≤ i.stop.wall
  | none => false

def inFlightNames : List String := Status.inFlight.map Status.name

def ProcessRow.isRunningIn (i : Interval) (r : ProcessRow) : Bool :=
  inFlightNames.contains r.state && (inWindow i r.schedule || inWindow i r.start)

def ProcessRow.isScheduledIn (i : Interval) (r : ProcessRow) : Bool :=
  r.runMode == RunMode.scheduled.name && inWindow i r.schedule

def ProcessRow.isManualIn (i : Interval) (r : ProcessRow) : Bool :=
  r.runMode == RunMode.manual.name && inWindow i r.stop

-- ---------------------------------------------------------------------------
-- Questions
-- ---------------------------------------------------------------------------

/-- The rows of a definition that match, greatest first by the order of the lookup. -/
def Tables.latest? (t : Tables) (definitionId : Int) (matching : ProcessRow → Bool)
    (before : ProcessRow → ProcessRow → Bool) : Option ProcessRow :=
  greatest? before (t.processes.filter fun r => r.definitionId == definitionId && matching r)

def Tables.running? (t : Tables) (definitionId : Int) (i : Interval) : Option ProcessRow :=
  t.latest? definitionId (·.isRunningIn i) ProcessRow.startsBefore

def Tables.scheduled? (t : Tables) (definitionId : Int) (i : Interval) : Option ProcessRow :=
  t.latest? definitionId (·.isScheduledIn i) ProcessRow.stopsBefore

def Tables.manual? (t : Tables) (definitionId : Int) (i : Interval) : Option ProcessRow :=
  t.latest? definitionId (·.isManualIn i) ProcessRow.stopsBefore

def Tables.tasksOf (t : Tables) (processId : Int) : List TaskRow :=
  descending TaskRow.startsBefore (t.tasks.filter fun r => r.processId == processId && r.flag)

-- ---------------------------------------------------------------------------
-- Answers
-- ---------------------------------------------------------------------------

def replyWith {α : Type} (lookup : Lookup) (x : Except Foreign α) : Reply α :=
  match x with
  | .ok a => ⟨.ok a, []⟩
  | .error f =>
    ⟨.error (.own (.invalidRow lookup f)),
      [(.error, s!"Invalid history row in {lookup.name}: {f.message}")]⟩

def refusal {α : Type} (lookup : Lookup) (cls : FaultClass) : Reply α :=
  ⟨.error (.own (.historyFailed lookup (.database cls))), [(.error, s!"Error in {lookup.name}")]⟩

def unopenedReply {α : Type} (lookup : Lookup) (f : Foreign) : Reply α :=
  match f with
  | .database cls => refusal lookup cls
  | f => if f.cls.isValueClass then replyWith lookup (.error f) else ⟨.error (.foreign f), []⟩

/-- What a value compared with a column of whole numbers is equal to. -/
inductive ColumnKey
  | number (n : Int)
  /-- Equal to no number. -/
  | nothing
  /-- No value of the database. -/
  | unfit

def ColumnKey.ofReal (x : Binary64) : ColumnKey :=
  match x.whole? with
  | some n => if fits n then .number n else .nothing
  | none => .nothing

def ColumnKey.ofText (s : String) : ColumnKey :=
  let trim := fun cs : List Char => cs.dropWhile isPadding
  let (negative, digits) := takeSign (trim (trim s.toList).reverse).reverse
  ((decimal? negative digits).map ColumnKey.ofReal).getD .nothing

def ColumnKey.ofValue : Value → ColumnKey
  | .int n _ => .number n
  | .bool b => .number (if b then 1 else 0)
  | .real x => .ofReal x
  | .str s => .ofText s
  | .list _ => .unfit
  | .object _ => .unfit
  | .null => .nothing

def replyRow (lookup : Lookup) (db : Database) (definitionId : Value)
    (find : Tables → Int → Option ProcessRow) : Reply (Option Execution) :=
  match db, ColumnKey.ofValue definitionId with
  | none, _ => refusal lookup .operational
  | some _, .unfit => refusal lookup .binding
  | some _, .nothing => ⟨.ok none, []⟩
  | some t, .number n =>
    if fits n then
      match find t n with
      | none => ⟨.ok none, []⟩
      | some r => replyWith lookup (r.toRecord.map some)
    else ⟨.error (.foreign .wideInteger), []⟩

namespace Database

def findRunning (db : Database) (definitionId : Value) (i : Interval) :
    Reply (Option Execution) :=
  replyRow .running db definitionId fun t n => t.running? n i

def findScheduled (db : Database) (definitionId : Value) (i : Interval) :
    Reply (Option Execution) :=
  replyRow .scheduled db definitionId fun t n => t.scheduled? n i

def findManual (db : Database) (definitionId : Value) (i : Interval) :
    Reply (Option Execution) :=
  replyRow .manual db definitionId fun t n => t.manual? n i

def listTasks (db : Database) (processId : Int) : Reply (List TaskExecution) :=
  match db with
  | none => refusal .tasks .operational
  | some t =>
    if fits processId then replyWith .tasks ((t.tasksOf processId).mapM TaskRow.toRecord)
    else ⟨.error (.foreign .wideInteger), []⟩

end Database
end History
end DependencyGate
