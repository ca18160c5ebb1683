import DependencyGate.Verdict

/-!
# Relations

A relation reduces the verdicts of several dependencies to one. Under `all` one
failure decides, under `any` one success does; while none does, one open verdict
keeps the whole open.
-/

namespace DependencyGate

inductive Relation
  /-- Every dependency must hold. -/
  | all
  /-- One dependency must hold. -/
  | any
deriving DecidableEq, Repr, Inhabited

namespace Relation

def name : Relation → String
  | .all => "and"
  | .any => "or"

def ofName? (s : String) : Option Relation :=
  if s = "and" then some .all else if s = "or" then some .any else none

def decisive : Relation → Verdict
  | .all => .failed
  | .any => .success

/-- The verdict of an empty list, and of one in which nothing is decisive or open. -/
def neutral : Relation → Verdict
  | .all => .success
  | .any => .failed

def combine (r : Relation) (verdicts : List Verdict) : Verdict :=
  if r.decisive ∈ verdicts then r.decisive
  else if .waiting ∈ verdicts then .waiting
  else r.neutral

@[simp] theorem combine_nil (r : Relation) : r.combine [] = r.neutral := by simp [combine]

end Relation
end DependencyGate
