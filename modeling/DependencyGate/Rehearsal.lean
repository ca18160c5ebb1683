import DependencyGate.Expression
import DependencyGate.History.Change
import DependencyGate.History.Lookup

/-!
# Rehearsals

Stand-ins for the collaborators. A script lists, for each question and key, the answers
to give one after the other; the last one is repeated. A stage joins either the real
calendar or a scripted one with either a database or a scripted history.
-/

namespace DependencyGate.Rehearsal

open Json (Value)
open Time (Moment Interval Zone)

-- ---------------------------------------------------------------------------
-- Scripts
-- ---------------------------------------------------------------------------

/-- The answers that one key leads to. -/
structure Slot (α : Type) where
  key : String
  answers : List (Except Fault α)

def anyKey : String := "*"

/-- The first answer, and what is left: the last answer stays. -/
def nextAnswer {α : Type} (silent : α) : List (Except Fault α) →
    Except Fault α × List (Except Fault α)
  | [] => (.ok silent, [])
  | [a] => (a, [a])
  | a :: rest => (a, rest)

def takeAt {α : Type} (silent : α) (key : String) : List (Slot α) →
    Option (Except Fault α × List (Slot α))
  | [] => none
  | s :: rest =>
    if s.key = key then
      let (a, answers) := nextAnswer silent s.answers
      some (a, ⟨s.key, answers⟩ :: rest)
    else (takeAt silent key rest).map fun (a, rest) => (a, s :: rest)

/-- Takes an answer from the slot of a key, or from the one that stands for all keys. -/
def take {α : Type} (silent : α) (key : String) (slots : List (Slot α)) :
    Except Fault α × List (Slot α) :=
  match takeAt silent key slots with
  | some r => r
  | none => (takeAt silent anyKey slots).getD (.ok silent, slots)

structure HistoryScript where
  running : List (Slot (Option Execution)) := []
  scheduled : List (Slot (Option Execution)) := []
  manual : List (Slot (Option Execution)) := []
  tasks : List (Slot (List TaskExecution)) := []

inductive Supported
  | every (b : Bool)
  | only (expressions : List String)

def Supported.holds : Supported → String → Bool
  | .every b, _ => b
  | .only es, e => es.contains e

structure CalendarScript where
  supported : Supported := .every true
  resolve : List (Slot (List Interval)) := []

-- ---------------------------------------------------------------------------
-- Stages
-- ---------------------------------------------------------------------------

inductive CalendarSource
  | zoned (zone : Option Zone)
  | scripted (s : CalendarScript)

inductive HistorySource
  | kept (db : History.Database)
  /-- A database that refuses to be opened. -/
  | refusing (f : Foreign)
  | scripted (s : HistoryScript)

structure Stage where
  calendar : CalendarSource := .zoned none
  history : HistorySource := .scripted {}

namespace Stage

def quiet {α : Type} (x : Except Fault α) : Reply α := ⟨x, []⟩

def supports (e : String) (s : Stage) : Bool × Stage :=
  match s.calendar with
  | .zoned _ => (Expression.isSupported e, s)
  | .scripted script => (script.supported.holds e, s)

def resolve (reference : Moment) (date : Value) (s : Stage) : Reply (List Interval) × Stage :=
  match s.calendar with
  | .zoned zone =>
    match DependencyGate.resolve zone reference date with
    | .ok is => (quiet (.ok is), s)
    | .error f => (quiet (.error (.foreign f)), s)
  | .scripted script =>
    let (x, slots) := take [] date.plain script.resolve
    (quiet x, { s with calendar := .scripted { script with resolve := slots } })

def running (definitionId : Value) (i : Interval) (s : Stage) :
    Reply (Option Execution) × Stage :=
  match s.history with
  | .kept db => (db.findRunning definitionId i, s)
  | .refusing f => (History.unopenedReply .running f, s)
  | .scripted script =>
    let (x, slots) := take none definitionId.plain script.running
    (quiet x, { s with history := .scripted { script with running := slots } })

def scheduled (definitionId : Value) (i : Interval) (s : Stage) :
    Reply (Option Execution) × Stage :=
  match s.history with
  | .kept db => (db.findScheduled definitionId i, s)
  | .refusing f => (History.unopenedReply .scheduled f, s)
  | .scripted script =>
    let (x, slots) := take none definitionId.plain script.scheduled
    (quiet x, { s with history := .scripted { script with scheduled := slots } })

def manual (definitionId : Value) (i : Interval) (s : Stage) :
    Reply (Option Execution) × Stage :=
  match s.history with
  | .kept db => (db.findManual definitionId i, s)
  | .refusing f => (History.unopenedReply .manual f, s)
  | .scripted script =>
    let (x, slots) := take none definitionId.plain script.manual
    (quiet x, { s with history := .scripted { script with manual := slots } })

def tasks (processId : Int) (s : Stage) : Reply (List TaskExecution) × Stage :=
  match s.history with
  | .kept db => (db.listTasks processId, s)
  | .refusing f => (History.unopenedReply .tasks f, s)
  | .scripted script =>
    let (x, slots) := take [] (toString processId) script.tasks
    (quiet x, { s with history := .scripted { script with tasks := slots } })

def collaborators : Collaborators Stage where
  supports := supports
  resolve := resolve
  running := running
  scheduled := scheduled
  manual := manual
  tasks id _ := tasks id

-- ---------------------------------------------------------------------------
-- Changes of a stage
-- ---------------------------------------------------------------------------

/-- What may happen on a stage between two calls. -/
inductive Cue
  | history (s : HistoryScript)
  | calendar (s : CalendarScript)
  | change (c : History.Change)

def follow (cue : Cue) (s : Stage) : Except Foreign (Option History.ChangedRow) × Stage :=
  match cue with
  | .history script => (.ok none, { s with history := .scripted script })
  | .calendar script => (.ok none, { s with calendar := .scripted script })
  | .change c =>
    match s.history with
    | .scripted _ => (.error (.database .operational), s)
    | .refusing f => (.error f, s)
    | .kept db =>
      match c.apply db with
      | .ok (row, db) => (.ok (some row), { s with history := .kept db })
      | .error f => (.error f, s)

end Stage

end DependencyGate.Rehearsal
