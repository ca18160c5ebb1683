import DependencyGate.Time.Moment

/-!
# Intervals

An interval holds both its ends, which are of one kind and in order.
-/

namespace DependencyGate.Time

structure Interval where
  start : Moment
  stop : Moment
  ordered : start.isAfter stop = .ok false
deriving DecidableEq

namespace Interval

def make (start stop : Moment) : Except Fault Interval :=
  match h : start.isAfter stop with
  | .error e => .error e
  | .ok true => .error (.reversed start stop)
  | .ok false => .ok ⟨start, stop, h⟩

/-- A moment lies in the interval, ends included. -/
def contains (i : Interval) (m : Moment) : Except Fault Bool :=
  match i.start.isAfter m with
  | .error e => .error e
  | .ok true => .ok false
  | .ok false =>
    match m.isAfter i.stop with
    | .error e => .error e
    | .ok b => .ok !b

def hourOf (m : Moment) : Interval :=
  ⟨m.hourStart, m.hourEnd, Moment.isAfter_eq_false rfl (by
    simp only [Moment.hourStart, Moment.hourEnd, Moment.instant, hour]; omega)⟩

def dayOf (m : Moment) : Interval :=
  ⟨m.dayStart, m.dayEnd, Moment.isAfter_eq_false rfl (by
    simp only [Moment.dayStart, Moment.dayEnd, Moment.instant, dayLength]; omega)⟩

end Interval
end DependencyGate.Time
