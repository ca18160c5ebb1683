import DependencyGate.GatedTask
import DependencyGate.Number.Quantity

/-!
# The polling loop

The loop polls a task until all gates are finished, the task is cancelled or the time
is up, in this order after each poll, and waits between polls. `Surroundings` says what
reading the clock and waiting do: both may bring a cancellation, and reading the clock
may change the collaborators' state.
-/

namespace DependencyGate

open Number (Binary64 Quantity)
open Time (Moment)

/-- What a loop runs in; `τ` is the state of its surroundings. -/
structure Surroundings (τ σ : Type) where
  /-- The reference moment for the poll of this number, and whether a cancellation came. -/
  read : Nat → τ → σ → (Moment × Bool) × τ × σ
  /-- Waits; the answer is whether a cancellation came. -/
  wait : τ → Bool × τ
  /-- Seconds since the loop began; none are more than any number when it is not known. -/
  elapsed : τ → Option Binary64.Place

namespace GatedTask

variable {τ σ : Type}

structure LoopState (τ σ : Type) where
  surroundings : τ
  task : GatedTask
  world : World σ

namespace LoopState

def note (s : LoopState τ σ) (level : Journal.Level) (message : String) : LoopState τ σ :=
  { s with world := (Engine.note level .task message s.world).2 }

def cancelIf (s : LoopState τ σ) (asked : Bool) : LoopState τ σ :=
  if asked then { s with task := s.task.cancel } else s

def giveUp (s : LoopState τ σ) : LoopState τ σ :=
  { s with task := { s.task with verdict := .failed } }

def readClock (e : Surroundings τ σ) (s : LoopState τ σ) : Moment × LoopState τ σ :=
  let ((reference, asked), surroundings, state) :=
    e.read (s.task.polls + 1) s.surroundings s.world.state
  (reference,
    { s with
      surroundings := surroundings
      world := { s.world with state := state } }.cancelIf asked)

def poll (c : Collaborators σ) (reference : Moment) (s : LoopState τ σ) :
    Except Fault Bool × LoopState τ σ :=
  let (r, task, world) := GatedTask.poll c reference (s.task, s.world)
  (r, { s with task := task, world := world })

/-- Waits between two polls; with a cancellation there is nothing to wait for. -/
def wait (e : Surroundings τ σ) (s : LoopState τ σ) : LoopState τ σ :=
  if s.task.cancelled then s
  else
    let (asked, surroundings) := e.wait s.surroundings
    { s with surroundings := surroundings }.cancelIf asked

def timedOut (e : Surroundings τ σ) (limit : Quantity) (s : LoopState τ σ) : Bool :=
  match limit.place?, e.elapsed s.surroundings with
  | some l, some t => l.le t
  | _, _ => false

end LoopState

/-- One turn of the loop: the end with a verdict or a fault, or the state before the next turn. -/
def turn (c : Collaborators σ) (e : Surroundings τ σ) (limit : Option Quantity)
    (s : LoopState τ σ) : Option (Except Fault Verdict) × LoopState τ σ :=
  if s.task.cancelled then
    let s := s.note .warning s!"Dependent task cancelled after {s.task.polls} polls"
    (some (.ok .failed), s.giveUp)
  else
    let (reference, s) := s.readClock e
    match s.poll c reference with
    | (.error f, s) => (some (.error f), s)
    | (.ok true, s) =>
      let s := s.note .info s!"Dependent task finished: {s.task.verdict.name}"
      (some (.ok s.task.verdict), s)
    | (.ok false, s) =>
      match limit with
      | none => (none, s.wait e)
      | some limit =>
        if s.timedOut e limit then
          let s := s.note .warning
            s!"Dependent task timed out after {limit.toBinary64.fixedTenths}s"
          (some (.ok .failed), s.giveUp)
        else (none, s.wait e)

/-- Runs the loop for at most `fuel` turns; without an end by then there is no answer. -/
def run (c : Collaborators σ) (e : Surroundings τ σ) (limit : Option Quantity) :
    Nat → LoopState τ σ → Option (Except Fault Verdict) × LoopState τ σ
  | 0, s => (none, s)
  | fuel + 1, s =>
    match turn c e limit s with
    | (some r, s) => (some r, s)
    | (none, s) => run c e limit fuel s

end GatedTask
end DependencyGate
