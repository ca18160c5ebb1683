import DependencyGate.Fault
import DependencyGate.Journal
import DependencyGate.Record

/-!
# Collaborators

The gate reads from two collaborators: one turns date expressions into intervals, the
other looks up execution history. They are functions over a state of their own kind,
so that an answer may depend on all earlier calls. `Engine` is the effect in which the
gate runs: a computation sees the collaborators' state, the calls made so far and the
journal, and keeps all three when it ends in a fault.
-/

namespace DependencyGate

open Json (Value)
open Time (Moment Interval)

inductive Call
  | supports (expression : String)
  | resolve (reference : Moment) (expression : Value)
  | running (definitionId : Value) (interval : Interval)
  | scheduled (definitionId : Value) (interval : Interval)
  | manual (definitionId : Value) (interval : Interval)
  | tasks (processId : Int) (short : Number.isShort processId := by exact Eq.refl true)
deriving DecidableEq

/-- What a collaborator returns or raises, and what it writes into the journal meanwhile. -/
structure Reply (α : Type) where
  outcome : Except Fault α
  notes : List (Journal.Level × String) := []

structure Collaborators (σ : Type) where
  supports : String → σ → Bool × σ
  resolve : Moment → Value → σ → Reply (List Interval) × σ
  running : Value → Interval → σ → Reply (Option Execution) × σ
  scheduled : Value → Interval → σ → Reply (Option Execution) × σ
  manual : Value → Interval → σ → Reply (Option Execution) × σ
  tasks : (processId : Int) → Number.Short processId → σ → Reply (List TaskExecution) × σ

structure World (σ : Type) where
  state : σ
  calls : List Call := []
  journal : List Journal.Entry := []

/-- A computation that may end in a fault and keeps the world as it is by then. -/
abbrev Engine (σ : Type) := ExceptT Fault (StateM (World σ))

namespace Engine

variable {σ α : Type}

def note (level : Journal.Level) (part : Journal.Part) (message : String) : Engine σ Unit :=
  fun w => (.ok (), { w with journal := w.journal ++ [⟨level, part, message⟩] })

def ask (call : Call) (answer : σ → Reply α × σ) : Engine σ α := fun w =>
  let (reply, state) := answer w.state
  (reply.outcome,
    { state := state
      calls := w.calls ++ [call]
      journal := w.journal ++ reply.notes.map fun n => ⟨n.1, .history, n.2⟩ })

def askSupport (c : Collaborators σ) (expression : String) : Engine σ Bool := fun w =>
  let (supported, state) := c.supports expression w.state
  (.ok supported, { w with state := state, calls := w.calls ++ [.supports expression] })

/-- Turns a foreign fault of a collaborator into an incident; incidents pass unchanged. -/
def guarded (collaborator : String) (context : Context) (x : Engine σ α) : Engine σ α := fun w =>
  match x w with
  | (.error (.foreign f), w) => (.error (.own (.unavailable collaborator context f)), w)
  | result => result

def fail (i : Incident) : Engine σ α := throw (.own i)

def ofForeign (x : Except Foreign α) : Engine σ α :=
  match x with
  | .ok a => pure a
  | .error f => throw (.foreign f)

end Engine
end DependencyGate
