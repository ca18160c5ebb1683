import DependencyGate.Json.Value
import DependencyGate.Status
import DependencyGate.Time.Interval

/-!
# Execution records

What the history tells about one execution of a process, or of one task inside it. An
incident names the execution whose tasks were asked for, so its id has a text.
-/

namespace DependencyGate

open Time (Moment)

structure Execution where
  id : Int
  definitionId : Int
  status : Status
  runMode : RunMode
  start : Option Moment := none
  stop : Option Moment := none
  schedule : Option Moment := none
  name : Option String := none
  short : Number.Short id := by exact Eq.refl true
deriving DecidableEq

structure TaskExecution where
  id : Int
  processId : Int
  name : String
  status : Status
  start : Option Moment := none
  stop : Option Moment := none
deriving DecidableEq

end DependencyGate
