import DependencyGate.Fault
import DependencyGate.Record
import DependencyGate.Time.IsoText

/-!
# The history tables

Two tables hold what was executed: one row per execution of a process, one per
execution of a task inside a process. Texts are kept as they were given, so that a row
may name a state that does not exist; such a row cannot be read as a record. Times are
kept as readings of a clock, without their offset.
-/

namespace DependencyGate.History

open Json (Value)
open Time (Moment)

/-- The database takes whole numbers of 64 bits. -/
def fits (n : Int) : Bool := -9223372036854775808 ≤ n && n < 9223372036854775808

theorem short_of_fits (h : fits n) : Number.Short n := by
  simp only [fits, Bool.and_eq_true, decide_eq_true_eq] at h
  have hlength : (Nat.toDigits 10 n.natAbs).length ≤ 19 :=
    (Nat.length_toDigits_le_iff (by decide) (by decide)).mpr (by omega)
  exact decide_eq_true (Nat.le_trans hlength (by decide))

structure ProcessRow where
  id : Int
  definitionId : Int
  name : Option String := none
  state : String
  runMode : String
  schedule : Option Moment := none
  start : Option Moment := none
  stop : Option Moment := none
  id_fits : fits id := by exact Eq.refl true
  definition_fits : fits definitionId := by exact Eq.refl true
deriving DecidableEq

structure TaskRow where
  id : Int
  processId : Int
  name : String
  state : String
  /-- A row without the flag is superseded by a later attempt. -/
  flag : Bool
  start : Option Moment := none
  stop : Option Moment := none
  id_fits : fits id := by exact Eq.refl true
  process_fits : fits processId := by exact Eq.refl true
deriving DecidableEq

structure Tables where
  processes : List ProcessRow := []
  tasks : List TaskRow := []
deriving DecidableEq

/-- A database whose tables may not have been created. -/
abbrev Database := Option Tables

inductive Place
  /-- A new database without tables. -/
  | empty
  | file (path : String)
  /-- A database that refuses to be opened. -/
  | refused (f : Foreign)
deriving DecidableEq

-- ---------------------------------------------------------------------------
-- Rows as records and documents
-- ---------------------------------------------------------------------------

def readStatus (name : String) : Except Foreign Status :=
  match Status.ofName? name with
  | some s => .ok s
  | none => .error (.notMember (.str name) .status)

def readRunMode (name : String) : Except Foreign RunMode :=
  match RunMode.ofName? name with
  | some m => .ok m
  | none => .error (.notMember (.str name) .runMode)

def timeField (m : Option Moment) : Value :=
  match m with
  | some m => .str m.text
  | none => .null

def textField (s : Option String) : Value :=
  match s with
  | some s => .str s
  | none => .null

namespace ProcessRow

def toRecord (r : ProcessRow) : Except Foreign Execution := do
  let status ← readStatus r.state
  let runMode ← readRunMode r.runMode
  return ⟨r.id, r.definitionId, status, runMode, r.start, r.stop, r.schedule, r.name,
    short_of_fits r.id_fits⟩

def stored (r : ProcessRow) : ProcessRow :=
  { r with
    schedule := r.schedule.map Moment.dropOffset
    start := r.start.map Moment.dropOffset
    stop := r.stop.map Moment.dropOffset }

def toDocument (r : ProcessRow) : Value :=
  .object [("id", .int r.id (short_of_fits r.id_fits)),
    ("process_definition_id", .int r.definitionId (short_of_fits r.definition_fits)),
    ("name", textField r.name), ("state", .str r.state), ("run_mode", .str r.runMode),
    ("schedule_time", timeField r.schedule), ("start_time", timeField r.start),
    ("end_time", timeField r.stop)]

def text (r : ProcessRow) : String :=
  s!"<ProcessInstanceModel(id={r.id}, definition_id={r.definitionId}, state='{r.state}')>"

end ProcessRow

namespace TaskRow

def toRecord (r : TaskRow) : Except Foreign TaskExecution := do
  let status ← readStatus r.state
  return ⟨r.id, r.processId, r.name, status, r.start, r.stop⟩

def stored (r : TaskRow) : TaskRow :=
  { r with start := r.start.map Moment.dropOffset, stop := r.stop.map Moment.dropOffset }

def toDocument (r : TaskRow) : Value :=
  .object [("id", .int r.id (short_of_fits r.id_fits)),
    ("process_instance_id", .int r.processId (short_of_fits r.process_fits)),
    ("name", .str r.name), ("state", .str r.state), ("flag", .bool r.flag),
    ("start_time", timeField r.start),
    ("end_time", timeField r.stop)]

def text (r : TaskRow) : String :=
  s!"<TaskInstanceModel(id={r.id}, name='{r.name}', state='{r.state}')>"

end TaskRow

end DependencyGate.History
