import DependencyGate.History.Change

/-!
# Histories as documents

A document lists the rows of both tables as objects that name columns. Columns that no
table has are ignored, and `tables` can say that nothing was created.
-/

namespace DependencyGate.History

open Json (Value)
open Time (Moment)

def readMoment (v : Value) : Except Foreign Moment :=
  match Moment.parse v.plain with
  | .ok m => .ok m
  | .error f => .error (.momentText f)

/-- A whole number; truth values count as one and zero. -/
def wholeOf? : Value → Option Int
  | .int n _ => some n
  | .bool b => some (if b then 1 else 0)
  | _ => none

def nullable {α : Type} (f : Value → Except Foreign α) (v : Value) : Except Foreign (Option α) :=
  match v with
  | .null => .ok none
  | v => (f v).map some

def readText (v : Value) : Except Foreign String := .ok v.plain
def readFlag (v : Value) : Except Foreign Bool := .ok v.given

def readProcessColumn (name : String) (v : Value) : Except Foreign (Option ProcessColumn) := do
  match name with
  | "process_definition_id" => return some (.definitionId (wholeOf? v))
  | "name" => return some (.name (← nullable readText v))
  | "state" => return some (.state (← nullable readText v))
  | "run_mode" => return some (.runMode (← nullable readText v))
  | "schedule_time" => return some (.schedule (← nullable readMoment v))
  | "start_time" => return some (.start (← nullable readMoment v))
  | "end_time" => return some (.stop (← nullable readMoment v))
  | _ => return none

def readTaskColumn (name : String) (v : Value) : Except Foreign (Option TaskColumn) := do
  match name with
  | "process_instance_id" => return some (.processId (wholeOf? v))
  | "name" => return some (.name (← nullable readText v))
  | "state" => return some (.state (← nullable readText v))
  | "flag" => return some (.flag (← nullable readFlag v))
  | "start_time" => return some (.start (← nullable readMoment v))
  | "end_time" => return some (.stop (← nullable readMoment v))
  | _ => return none

def readColumns {α : Type} (read : String → Value → Except Foreign (Option α)) :
    List (String × Value) → Except Foreign (List α)
  | [] => .ok []
  | (name, v) :: rest => do
    let column ← read name v
    let columns ← readColumns read rest
    return column.toList ++ columns

def fieldsOf : Value → List (String × Value)
  | .object fields => fields
  | _ => []

def itemsOf : Value → List Value
  | .list items => items
  | _ => []

def rowId? (row : Value) : Option Int := (row.field? "id").bind wholeOf?

def readAddProcess (row : Value) : Except Foreign Change := do
  return .addProcess (rowId? row) (← readColumns readProcessColumn (fieldsOf row))

def readAddTask (row : Value) : Except Foreign Change := do
  return .addTask (rowId? row) (← readColumns readTaskColumn (fieldsOf row))

def readUpdateProcess (row : Value) : Except Foreign Change := do
  return .updateProcess ((rowId? row).getD 0) (← readColumns readProcessColumn (fieldsOf row))

def readUpdateTask (row : Value) : Except Foreign Change := do
  return .updateTask ((rowId? row).getD 0) (← readColumns readTaskColumn (fieldsOf row))

def rowsOf (name : String) (document : Value) : List Value :=
  itemsOf ((document.field? name).getD .null)

def Database.read (document : Value) : Except Foreign Database := do
  let start : Database :=
    if document.field? "tables" = some (.bool false) then none else some {}
  let processes ← (rowsOf "processes" document).mapM readAddProcess
  let tasks ← (rowsOf "task_rows" document).mapM readAddTask
  start.fill (processes ++ tasks)

end DependencyGate.History
