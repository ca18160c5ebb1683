import DependencyGate.Verdict

/-!
# Execution states

The states in which the history store reports an execution, how they are grouped,
and the verdict that follows from one. Accepted executions that wait for a thread or
for their own dependencies count as running.
-/

namespace DependencyGate

inductive Status
  | submittedSuccess
  | runningExecution
  | readyPause
  | pause
  | readyStop
  | stop
  | failure
  | success
  | needFaultTolerance
  | kill
  | waitingThread
  | waitingDepend
deriving DecidableEq, Repr, Inhabited

inductive Category
  | runningLike
  | successLike
  | other
deriving DecidableEq, Repr

inductive RunMode
  | scheduled
  | manual
deriving DecidableEq, Repr, Inhabited

namespace Status

def all : List Status :=
  [.submittedSuccess, .runningExecution, .readyPause, .pause, .readyStop, .stop, .failure,
   .success, .needFaultTolerance, .kill, .waitingThread, .waitingDepend]

def name : Status → String
  | .submittedSuccess => "submitted_success"
  | .runningExecution => "running_execution"
  | .readyPause => "ready_pause"
  | .pause => "pause"
  | .readyStop => "ready_stop"
  | .stop => "stop"
  | .failure => "failure"
  | .success => "success"
  | .needFaultTolerance => "need_fault_tolerance"
  | .kill => "kill"
  | .waitingThread => "waiting_thread"
  | .waitingDepend => "waiting_depend"

def ofName? (s : String) : Option Status := all.find? fun state => state.name == s

def isRunning (s : Status) : Bool := s == .runningExecution || s == .waitingDepend

def isSuccess (s : Status) : Bool := s == .success

/-- States of an execution that the history store counts as under way. -/
def inFlight : List Status :=
  [.submittedSuccess, .runningExecution, .readyPause, .needFaultTolerance, .readyStop]

def category (s : Status) : Category :=
  if s.isRunning || s == .submittedSuccess || s == .waitingThread then .runningLike
  else if s.isSuccess then .successLike
  else .other

end Status

def Category.name : Category → String
  | .runningLike => "running_like"
  | .successLike => "success_like"
  | .other => "other"

def Category.verdict : Category → Verdict
  | .runningLike => .waiting
  | .successLike => .success
  | .other => .failed

def Status.verdict (s : Status) : Verdict := s.category.verdict

namespace RunMode

def name : RunMode → String
  | .scheduled => "scheduled"
  | .manual => "manual"

def ofName? (s : String) : Option RunMode :=
  if s = "scheduled" then some .scheduled else if s = "manual" then some .manual else none

end RunMode
end DependencyGate
