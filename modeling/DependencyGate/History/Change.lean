import DependencyGate.History.Table

/-!
# Changing the history

Rows are added and updated by naming columns. A column without a value takes its
default when a row is added; a required column without one is refused. The answer is
the row as it was given, offsets included, while the tables keep it without them.
-/

namespace DependencyGate.History

open Time (Moment)

inductive ProcessColumn
  | definitionId (v : Option Int)
  | name (v : Option String)
  | state (v : Option String)
  | runMode (v : Option String)
  | schedule (v : Option Moment)
  | start (v : Option Moment)
  | stop (v : Option Moment)
deriving DecidableEq

inductive TaskColumn
  | processId (v : Option Int)
  | name (v : Option String)
  | state (v : Option String)
  | flag (v : Option Bool)
  | start (v : Option Moment)
  | stop (v : Option Moment)
deriving DecidableEq

-- ---------------------------------------------------------------------------
-- Rows in the making
-- ---------------------------------------------------------------------------

/-- A process row in which columns may be missing. -/
structure ProcessDraft where
  definitionId : Option Int := none
  name : Option String := none
  state : Option String := none
  runMode : Option String := none
  schedule : Option Moment := none
  start : Option Moment := none
  stop : Option Moment := none

def ProcessDraft.set (d : ProcessDraft) : ProcessColumn → ProcessDraft
  | .definitionId v => { d with definitionId := v }
  | .name v => { d with name := v }
  | .state v => { d with state := v }
  | .runMode v => { d with runMode := v }
  | .schedule v => { d with schedule := v }
  | .start v => { d with start := v }
  | .stop v => { d with stop := v }

def ProcessDraft.ofRow (r : ProcessRow) : ProcessDraft :=
  ⟨some r.definitionId, r.name, some r.state, some r.runMode, r.schedule, r.start, r.stop⟩

def ProcessDraft.withDefaults (d : ProcessDraft) : ProcessDraft :=
  { d with
    state := some (d.state.getD Status.submittedSuccess.name)
    runMode := some (d.runMode.getD RunMode.scheduled.name) }

def ProcessDraft.row? (d : ProcessDraft) (id : Int) : Option ProcessRow := do
  let definitionId ← d.definitionId
  let state ← d.state
  let runMode ← d.runMode
  if h : fits id ∧ fits definitionId then
    some ⟨id, definitionId, d.name, state, runMode, d.schedule, d.start, d.stop, h.1, h.2⟩
  else none

structure TaskDraft where
  processId : Option Int := none
  name : Option String := none
  state : Option String := none
  flag : Option Bool := none
  start : Option Moment := none
  stop : Option Moment := none

def TaskDraft.set (d : TaskDraft) : TaskColumn → TaskDraft
  | .processId v => { d with processId := v }
  | .name v => { d with name := v }
  | .state v => { d with state := v }
  | .flag v => { d with flag := v }
  | .start v => { d with start := v }
  | .stop v => { d with stop := v }

def TaskDraft.ofRow (r : TaskRow) : TaskDraft :=
  ⟨some r.processId, some r.name, some r.state, some r.flag, r.start, r.stop⟩

def TaskDraft.withDefaults (d : TaskDraft) : TaskDraft :=
  { d with
    state := some (d.state.getD Status.submittedSuccess.name)
    flag := some (d.flag.getD true) }

def TaskDraft.row? (d : TaskDraft) (id : Int) : Option TaskRow := do
  let processId ← d.processId
  let name ← d.name
  let state ← d.state
  let flag ← d.flag
  if h : fits id ∧ fits processId then
    some ⟨id, processId, name, state, flag, d.start, d.stop, h.1, h.2⟩
  else none

-- ---------------------------------------------------------------------------
-- Changes
-- ---------------------------------------------------------------------------

/-- The id of a new row: the one given, or the next after the greatest. -/
def nextId (ids : List Int) (given : Option Int) : Int :=
  match given with
  | some id => id
  | none =>
    match ids with
    | [] => 1
    | id :: rest => rest.foldl max id + 1

def anyWide (given : List (Option Int)) : Bool := given.any fun n => !fits (n.getD 0)

def ProcessColumn.columnName : ProcessColumn → String
  | .definitionId _ => "process_definition_id"
  | .name _ => "name"
  | .state _ => "state"
  | .runMode _ => "run_mode"
  | .schedule _ => "schedule_time"
  | .start _ => "start_time"
  | .stop _ => "end_time"

def TaskColumn.columnName : TaskColumn → String
  | .processId _ => "process_instance_id"
  | .name _ => "name"
  | .state _ => "state"
  | .flag _ => "flag"
  | .start _ => "start_time"
  | .stop _ => "end_time"

/-- A change of a row that does not exist, by the first column to be set. -/
def missingRow (columns : List String) : Foreign := .noAttribute .none (columns.headD "id")

namespace Tables

def addProcess (t : Tables) (id : Option Int) (columns : List ProcessColumn) :
    Except Foreign (ProcessRow × Tables) :=
  let draft := (columns.foldl ProcessDraft.set {}).withDefaults
  let key := nextId (t.processes.map (·.id)) id
  if anyWide [id, draft.definitionId] then .error .wideInteger
  else
    match draft.row? key with
    | none => .error (.database .integrity)
    | some r =>
      if t.processes.any fun p => p.id == key then .error (.database .integrity)
      else .ok (r, { t with processes := t.processes ++ [r.stored] })

def addTask (t : Tables) (id : Option Int) (columns : List TaskColumn) :
    Except Foreign (TaskRow × Tables) :=
  let draft := (columns.foldl TaskDraft.set {}).withDefaults
  let key := nextId (t.tasks.map (·.id)) id
  if anyWide [id, draft.processId] then .error .wideInteger
  else
    match draft.row? key with
    | none => .error (.database .integrity)
    | some r =>
      if t.tasks.any fun p => p.id == key then .error (.database .integrity)
      else .ok (r, { t with tasks := t.tasks ++ [r.stored] })

def updateProcess (t : Tables) (id : Int) (columns : List ProcessColumn) :
    Except Foreign (ProcessRow × Tables) :=
  if !fits id then .error .wideInteger
  else
    match t.processes.find? fun p => p.id == id with
    | none => .error (missingRow (columns.map ProcessColumn.columnName))
    | some old =>
      let draft := columns.foldl ProcessDraft.set (.ofRow old)
      if anyWide [draft.definitionId] then .error .wideInteger
      else
        match draft.row? id with
        | none => .error (.database .integrity)
        | some r =>
          .ok (r, { t with
            processes := t.processes.map fun p => if p.id = id then r.stored else p })

def updateTask (t : Tables) (id : Int) (columns : List TaskColumn) :
    Except Foreign (TaskRow × Tables) :=
  if !fits id then .error .wideInteger
  else
    match t.tasks.find? fun p => p.id == id with
    | none => .error (missingRow (columns.map TaskColumn.columnName))
    | some old =>
      let draft := columns.foldl TaskDraft.set (.ofRow old)
      if anyWide [draft.processId] then .error .wideInteger
      else
        match draft.row? id with
        | none => .error (.database .integrity)
        | some r =>
          .ok (r, { t with tasks := t.tasks.map fun p => if p.id = id then r.stored else p })

end Tables

-- ---------------------------------------------------------------------------
-- Changes as values
-- ---------------------------------------------------------------------------

inductive Change
  | addProcess (id : Option Int) (columns : List ProcessColumn)
  | addTask (id : Option Int) (columns : List TaskColumn)
  | updateProcess (id : Int) (columns : List ProcessColumn)
  | updateTask (id : Int) (columns : List TaskColumn)
deriving DecidableEq

inductive ChangedRow
  | process (r : ProcessRow)
  | task (r : TaskRow)
deriving DecidableEq

def Change.apply (change : Change) (db : Database) : Except Foreign (ChangedRow × Database) :=
  match db with
  | none => .error (.database .operational)
  | some t =>
    match change with
    | .addProcess id columns =>
      (t.addProcess id columns).map fun (r, t) => (.process r, some t)
    | .addTask id columns => (t.addTask id columns).map fun (r, t) => (.task r, some t)
    | .updateProcess id columns =>
      (t.updateProcess id columns).map fun (r, t) => (.process r, some t)
    | .updateTask id columns => (t.updateTask id columns).map fun (r, t) => (.task r, some t)

/-- A database filled by a list of changes; the first one that is refused ends it. -/
def Database.fill (db : Database) : List Change → Except Foreign Database
  | [] => .ok db
  | change :: rest => do
    let (_, db) ← change.apply db
    fill db rest

end DependencyGate.History
