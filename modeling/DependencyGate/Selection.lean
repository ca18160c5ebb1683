import DependencyGate.Collaborator
import DependencyGate.Time.IsoText

/-!
# The authoritative execution

Of all executions of a process in an interval one stands for the interval's outcome:
a running one if there is any, otherwise the later finished of the latest scheduled
and the latest manual one. `laterFinished` prefers the scheduled one on a tie, and an
execution that has an end to one that has none.
-/

namespace DependencyGate

open Json (Value)
open Time (Interval)

def laterFinished (scheduled manual : Option Execution) :
    Except Time.Fault (Option Execution) :=
  match scheduled, manual with
  | _, none => .ok scheduled
  | none, some _ => .ok manual
  | some s, some m =>
    match s.stop, m.stop with
    | _, none => .ok scheduled
    | none, some _ => .ok manual
    | some sEnd, some mEnd => do
      if ← mEnd.isAfter sEnd then return manual else return scheduled

inductive Candidates
  | running (e : Execution)
  /-- Nothing runs; the latest execution of either mode. -/
  | finished (scheduled manual : Option Execution)

variable {σ : Type}

/-- Asks for a running execution, and only without one for finished ones. -/
def candidates (c : Collaborators σ) (definitionId : Value) (interval : Interval) :
    Engine σ Candidates := do
  match ← Engine.ask (.running definitionId interval) (c.running definitionId interval) with
  | some e =>
    Engine.note .debug .selection
      s!"Running process instance {e.id} selected for definition {definitionId.plain}"
    return .running e
  | none =>
    let scheduled ←
      Engine.ask (.scheduled definitionId interval) (c.scheduled definitionId interval)
    let manual ← Engine.ask (.manual definitionId interval) (c.manual definitionId interval)
    return .finished scheduled manual

def selectionContext (definitionId : Value) (interval : Interval) : Context :=
  [("definition_id", definitionId), ("start_time", .str interval.start.text),
    ("end_time", .str interval.stop.text)]

def selectExecution (c : Collaborators σ) (definitionId : Value) (interval : Interval) :
    Engine σ (Option Execution) := do
  let found ← Engine.guarded "history store" (selectionContext definitionId interval)
    (candidates c definitionId interval)
  match found with
  | .running e => return some e
  | .finished scheduled manual =>
    match laterFinished scheduled manual with
    | .ok e => return e
    | .error f => throw (.foreign (.time f))

end DependencyGate
