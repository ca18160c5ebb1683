import DependencyGate.Gate

/-!
# Gated tasks

A gated task waits on several gates under an outer relation. A poll asks every gate at
one reference moment, finished ones included, and sets the task's verdict only when all
of them are finished. A fault ends the poll: gates before the faulty one keep their
progress, gates after it are not asked.
-/

namespace DependencyGate

open Time (Moment)

structure GatedTask where
  gates : List Gate
  relation : Relation
  verdict : Verdict := .waiting
  cancelled : Bool := false
  /-- How many polls were started. -/
  polls : Nat := 0
deriving DecidableEq

/-- A computation on a gated task; a fault keeps the task and the world as they are by then. -/
abbrev TaskRun (σ : Type) := ExceptT Fault (StateM (GatedTask × World σ))

namespace TaskRun

variable {σ α : Type}

def ofEngine (x : Engine σ α) : TaskRun σ α := fun (t, w) =>
  let (r, w) := x w
  (r, t, w)

def task : TaskRun σ GatedTask := fun s => (.ok s.1, s)

def update (f : GatedTask → GatedTask) : TaskRun σ Unit := fun s => (.ok (), f s.1, s.2)

end TaskRun

/-- Polls gates in order; what is left of them when one ends in a fault is as it was. -/
def pollGates {σ : Type} (c : Collaborators σ) (reference : Moment) :
    List Gate → World σ → Except Fault (List Bool) × List Gate × World σ
  | [], w => (.ok [], [], w)
  | g :: rest, w =>
    match Gate.poll c reference (g, w) with
    | (.error f, g, w) => (.error f, g :: rest, w)
    | (.ok finished, g, w) =>
      match pollGates c reference rest w with
      | (.ok others, rest, w) => (.ok (finished :: others), g :: rest, w)
      | (.error f, rest, w) => (.error f, g :: rest, w)

namespace GatedTask

variable {σ : Type}

def make (c : Collaborators σ) (p : Parameters) : Engine σ GatedTask := do
  match p.validate with
  | .error i => Engine.fail i
  | .ok relation =>
    let gates ← p.declarations.mapM (Gate.make c)
    return { gates := gates, relation := relation }

def cancel (t : GatedTask) : GatedTask := { t with cancelled := true }

def combined (t : GatedTask) : Verdict := t.relation.combine (t.gates.map (·.verdict))

def askGates (c : Collaborators σ) (reference : Moment) : TaskRun σ (List Bool) := fun (t, w) =>
  let (r, gates, w) := pollGates c reference t.gates w
  (r, { t with gates := gates }, w)

/-- Polls once; the answer is whether every gate is finished. -/
def poll (c : Collaborators σ) (reference : Moment) : TaskRun σ Bool := do
  TaskRun.update fun t => { t with polls := t.polls + 1 }
  let finished ← askGates c reference
  let t ← TaskRun.task
  TaskRun.ofEngine (Engine.note .debug .task (s!"Dependent poll #{t.polls} at {reference.text}: " ++
    s!"{finished.count true}/{finished.length} finished"))
  if finished.all id then
    TaskRun.update fun t => { t with verdict := t.combined }
    return true
  else return false

/-- Polls one of the gates; none has that index when the answer is `none`. -/
def pollGate (c : Collaborators σ) (reference : Moment) (index : Nat) :
    TaskRun σ (Option Bool) := fun (t, w) =>
  match t.gates[index]? with
  | none => (.ok none, t, w)
  | some g =>
    match Gate.poll c reference (g, w) with
    | (.ok finished, g, w) => (.ok (some finished), { t with gates := t.gates.set index g }, w)
    | (.error f, g, w) => (.error f, { t with gates := t.gates.set index g }, w)

end GatedTask
end DependencyGate
