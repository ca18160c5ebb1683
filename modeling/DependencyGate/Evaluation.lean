import DependencyGate.Declaration
import DependencyGate.Selection

/-!
# The verdict on an item

An item is evaluated at a reference moment: its date is resolved to intervals, and the
intervals are walked in the order in which the collaborator lists them. The first that
does not succeed decides; an interval without an execution fails, and so does an item
without intervals.
-/

namespace DependencyGate

open Json (Value)
open Time (Moment Interval)

variable {σ : Type}

def Item.taskIn? (item : Item) (tasks : List TaskExecution) : Option TaskExecution :=
  tasks.find? fun t => Value.str t.name = item.target

/-- The verdict of a named task; a task that is not there yet counts as its process. -/
def taskVerdict (c : Collaborators σ) (item : Item) (e : Execution) : Engine σ Verdict := do
  let tasks ← Engine.guarded "history store"
    [("key", item.key), ("process_instance_id", .int e.id e.short)]
    (Engine.ask (.tasks e.id e.short) (c.tasks e.id e.short))
  match item.taskIn? tasks with
  | some t => return t.status.verdict
  | none =>
    Engine.note .debug .evaluation (s!"Task {item.target.plain} not found in process instance " ++
      s!"{e.id}, using process state {e.status.name}")
    return e.status.verdict

def executionVerdict (c : Collaborators σ) (item : Item) (e : Execution) : Engine σ Verdict :=
  if item.dependsOnAll then pure e.status.verdict else taskVerdict c item e

def intervalVerdict (c : Collaborators σ) (item : Item) (i : Interval) : Engine σ Verdict := do
  match ← selectExecution c item.definitionId i with
  | some e => executionVerdict c item e
  | none =>
    Engine.note .error .evaluation ("cannot find the right process instance: definition id:" ++
      s!"{item.definitionId.plain}, start:{i.start.text}, end:{i.stop.text}")
    return .failed

/-- The verdict on a list of intervals, given that on the one before them. -/
def verdictAfter (c : Collaborators σ) (item : Item) : Verdict → List Interval → Engine σ Verdict
  | v, [] => pure v
  | _, i :: rest => do
    let v ← intervalVerdict c item i
    if v = .success then verdictAfter c item v rest else pure v

def evaluateIntervals (c : Collaborators σ) (item : Item) (intervals : List Interval) :
    Engine σ Verdict :=
  verdictAfter c item .failed intervals

def evaluate (c : Collaborators σ) (item : Item) (reference : Moment) : Engine σ Verdict := do
  let intervals ← Engine.guarded "interval resolver"
    [("key", item.key), ("date_value", item.date)]
    (Engine.ask (.resolve reference item.date) (c.resolve reference item.date))
  evaluateIntervals c item intervals

end DependencyGate
