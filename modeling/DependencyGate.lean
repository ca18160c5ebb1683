import DependencyGate.Main
import DependencyGate.Json.Writer
import DependencyGate.Rehearsal.Loop
import DependencyGate.Proofs.Gate.Account
import DependencyGate.Proofs.Gate.History
import DependencyGate.Proofs.Gate.Permanence
import DependencyGate.Proofs.Gate.Interruption
import DependencyGate.Proofs.Gate.Reads
import DependencyGate.Proofs.History.Unfinished
import DependencyGate.Proofs.Declaration.Accepted
import DependencyGate.Proofs.Expression.Zoned
import DependencyGate.Proofs.History.Offsets
import DependencyGate.Proofs.GatedTask.Apart
import DependencyGate.Proofs.GatedTask.Faults
import DependencyGate.Proofs.GatedTask.TimeLimit
import DependencyGate.Proofs.History.Unrelated
import DependencyGate.Proofs.CommandLine.ExitCode
import DependencyGate.Proofs.Expression.Hours
import DependencyGate.Proofs.Expression.Instants
import DependencyGate.Proofs.History.Answered
import DependencyGate.Proofs.Completion
import DependencyGate.Proofs.History.Attempts
import DependencyGate.Proofs.Declaration.DefaultKeys

/-!
# Dependency gates

Decides whether a task may start by checking that the processes and tasks it depends on
have succeeded in the periods that its declarations name.
-/
