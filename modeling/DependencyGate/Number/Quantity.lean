import DependencyGate.Number.Shortest

/-!
# Quantities

Durations in settings are whole numbers, doubles, or truth values that count as one and
zero. They are compared exactly, also across the kinds.
-/

namespace DependencyGate.Number

/-- A number that remembers how it was written. -/
inductive Quantity
  | whole (n : Int)
  | real (x : Binary64)
  | truth (b : Bool)
deriving DecidableEq, Repr, Inhabited

namespace Quantity

def place? : Quantity → Option Binary64.Place
  | .whole n => some (.at (Binary64.unitsOfInt n))
  | .real x => x.place?
  | .truth b => some (.at (Binary64.unitsOfInt (if b then 1 else 0)))

def le (a b : Quantity) : Bool :=
  match a.place?, b.place? with
  | some p, some q => p.le q
  | _, _ => false

def toBinary64 : Quantity → Binary64
  | .whole n => .ofInt n
  | .real x => x
  | .truth b => .ofInt (if b then 1 else 0)

def text : Quantity → String
  | .whole n => toString n
  | .real x => x.text
  | .truth b => if b then "True" else "False"

end Quantity
end DependencyGate.Number
