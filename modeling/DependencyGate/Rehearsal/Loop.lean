import DependencyGate.GatedTask.Loop
import DependencyGate.Rehearsal

/-!
# Rehearsed loops

A polling loop on a stage, in virtual time: time passes only while the loop waits, by
exactly the polling interval, and a planned cancellation ends a wait at its own time.
Each reading of the clock may bring cues, and from a given poll on a cancellation.
-/

namespace DependencyGate.Rehearsal

open Number (Binary64 Quantity)
open Time (Moment)

inductive Event
  | cue (c : Stage.Cue)
  | cancel

structure Plan where
  /-- The readings of the clock; the last one is repeated. -/
  clock : List Moment
  /-- The seconds between two polls; without a positive number nothing is waited for. -/
  interval : Quantity
  limit : Option Quantity := none
  /-- The second at which the task is cancelled. -/
  cancelAt : Option Quantity := none
  /-- The poll from which on the task is cancelled. -/
  lastPoll : Int := 20
  events : Nat → List Event := fun _ => []

namespace Plan

def zeroSeconds : Quantity := .whole 0

def reading (p : Plan) (poll : Nat) : Moment :=
  match p.clock[poll - 1]? with
  | some m => m
  | none => p.clock.getLastD default

/-- Applies events in order; the answer is whether one of them is a cancellation. -/
def happen : List Event → Stage → Bool × Stage
  | [], s => (false, s)
  | .cancel :: rest, s => (true, (happen rest s).2)
  | .cue c :: rest, s => happen rest (s.follow c).2

def read (p : Plan) (poll : Nat) (now : Binary64) (s : Stage) :
    (Moment × Bool) × Binary64 × Stage :=
  let (cancelled, s) := happen (p.events poll) s
  ((p.reading poll, cancelled || p.lastPoll ≤ (poll : Int)), now, s)

def wait (p : Plan) (now : Binary64) : Bool × Binary64 :=
  match p.interval.place? with
  | none => (false, now)
  | some _ =>
    if p.interval.le zeroSeconds then (false, now)
    else
      let wake := now.add p.interval.toBinary64
      match p.cancelAt with
      | none => (false, wake)
      | some c => if c.toBinary64.le wake then (true, c.toBinary64) else (false, wake)

def surroundings (p : Plan) : Surroundings Binary64 Stage where
  read := p.read
  wait := p.wait
  elapsed := Binary64.place?

/-- More turns than the loop can take before the last poll cancels it. -/
def turns (p : Plan) : Nat := p.lastPoll.toNat + 2

def run (p : Plan) (task : GatedTask) (world : World Stage) :
    Option (Except Fault Verdict) × GatedTask.LoopState Binary64 Stage :=
  let start : GatedTask.LoopState Binary64 Stage := ⟨.zero false, task, world⟩
  let atOnce := match p.cancelAt with
    | some c => c.le zeroSeconds
    | none => false
  GatedTask.run Stage.collaborators p.surroundings p.limit p.turns (start.cancelIf atOnce)

end Plan
end DependencyGate.Rehearsal
