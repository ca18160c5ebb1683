/-!
# Verdicts

Three answers to the question whether a dependency holds. Two of them are final.
-/

namespace DependencyGate

inductive Verdict
  | waiting
  | success
  | failed
deriving DecidableEq, Repr, Inhabited

namespace Verdict

def isFinal (v : Verdict) : Bool := v != .waiting

def name : Verdict → String
  | .waiting => "waiting"
  | .success => "success"
  | .failed => "failed"

def all : List Verdict := [.waiting, .success, .failed]

def ofName? (s : String) : Option Verdict := all.find? fun v => v.name == s

@[simp] theorem isFinal_waiting : isFinal .waiting = false := rfl
@[simp] theorem isFinal_success : isFinal .success = true := rfl
@[simp] theorem isFinal_failed : isFinal .failed = true := rfl

theorem isFinal_eq_false_iff {v : Verdict} : v.isFinal = false ↔ v = .waiting := by
  cases v <;> simp

end Verdict
end DependencyGate
