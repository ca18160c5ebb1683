import DependencyGate.Declaration.Validation
import DependencyGate.Evaluation

/-!
# Gates

A gate holds one accepted declaration. Each poll evaluates the items that have no
final verdict yet, remembers the final ones by key, and combines the verdicts of all
items. A gate whose own verdict is final answers without evaluating anything. A fault
ends a poll early; what was remembered before it stays. How an item is evaluated is a
parameter, an `Evaluator`; `evaluate` gives the one that reads from collaborators.
-/

namespace DependencyGate

open Json (Value)
open Time (Moment)

abbrev Evaluator (σ : Type) := Item → Moment → Engine σ Verdict

structure Gate where
  items : List Item
  relation : Relation
  verdict : Verdict := .waiting
  /-- The final verdicts found so far by item key, in the order they were found. -/
  settled : List (Value × Verdict) := []
deriving DecidableEq

namespace Gate

def isFinished (g : Gate) : Bool := g.verdict.isFinal

def settled? (g : Gate) (key : Value) : Option Verdict :=
  (g.settled.find? fun entry => entry.1.sameKey key).map (·.2)

def settle (g : Gate) (key : Value) (v : Verdict) : Gate :=
  { g with settled := g.settled ++ [(key, v)] }

end Gate

/-- A computation on a gate; a fault keeps the gate and the world as they are by then. -/
abbrev GateRun (σ : Type) := ExceptT Fault (StateM (Gate × World σ))

namespace GateRun

variable {σ α : Type}

def ofEngine (x : Engine σ α) : GateRun σ α := fun (g, w) =>
  let (r, w) := x w
  (r, g, w)

def gate : GateRun σ Gate := fun s => (.ok s.1, s)

def update (f : Gate → Gate) : GateRun σ Unit := fun s => (.ok (), f s.1, s.2)

end GateRun

namespace Gate

variable {σ : Type}

def make (c : Collaborators σ) (d : Declaration) : Engine σ Gate := do
  let relation ← d.validate c
  return { items := d.items, relation := relation }

def resolvedText (key : Value) (v : Verdict) : String :=
  s!"Dependent item {key.plain} resolved: {v.name}"

def finishedText (r : Relation) (v : Verdict) : String :=
  s!"Dependent declaration finished: relation={r.name} result={v.name}"

def evaluateItemWith (ev : Evaluator σ) (reference : Moment) (item : Item) :
    GateRun σ Verdict := do
  let v ← GateRun.ofEngine (ev item reference)
  if v.isFinal then
    GateRun.update fun g => g.settle item.key v
    GateRun.ofEngine (Engine.note .info .gate (resolvedText item.key v))
  return v

/-- The verdict on an item: the one remembered for its key, or a fresh one. -/
def resolveItemWith (ev : Evaluator σ) (reference : Moment) (item : Item) :
    GateRun σ Verdict := do
  GateRun.ofEngine (Engine.ofForeign (checkKey item.key))
  match (← GateRun.gate).settled? item.key with
  | some v => return v
  | none => evaluateItemWith ev reference item

def resolveItemsWith (ev : Evaluator σ) (reference : Moment) :
    List Item → GateRun σ (List Verdict)
  | [] => pure []
  | item :: rest => do
    let v ← resolveItemWith ev reference item
    let vs ← resolveItemsWith ev reference rest
    return v :: vs

/-- The combined verdict of all items, whatever it was before. -/
def computeOverallWith (ev : Evaluator σ) (reference : Moment) : GateRun σ Verdict := do
  let g ← GateRun.gate
  let verdicts ← resolveItemsWith ev reference g.items
  let v := g.relation.combine verdicts
  GateRun.update fun g => { g with verdict := v }
  if v.isFinal then
    GateRun.ofEngine (Engine.note .info .gate (finishedText g.relation v))
  return v

def pollWith (ev : Evaluator σ) (reference : Moment) : GateRun σ Bool := do
  if (← GateRun.gate).isFinished then return true
  let v ← computeOverallWith ev reference
  return v.isFinal

-- ---------------------------------------------------------------------------
-- Gates that read from collaborators
-- ---------------------------------------------------------------------------

def resolveItem (c : Collaborators σ) : Moment → Item → GateRun σ Verdict :=
  resolveItemWith (evaluate c)

def computeOverall (c : Collaborators σ) : Moment → GateRun σ Verdict :=
  computeOverallWith (evaluate c)

def poll (c : Collaborators σ) : Moment → GateRun σ Bool := pollWith (evaluate c)

end Gate
end DependencyGate
