import DependencyGate.Time.Calendar

/-!
# Moments

A moment is a reading of a wall clock to the microsecond inside the years 1 to
9999, with the offset from UTC when it is known. Moments with an offset are
ordered by the instant they denote, moments without one by their reading; across
the two kinds there is no order.
-/

namespace DependencyGate.Time

def second : Int := 1000000
def minute : Int := 60000000
def hour : Int := 3600000000
def dayLength : Int := 86400000000

def wallLimit : Int := 315537897600000000

structure Moment where
  /-- The reading of the clock in microseconds since the start of year 1. -/
  wall : Int
  /-- How far the clock is ahead of UTC, in microseconds. -/
  offset : Option Int
  wall_mem : 0 ≤ wall ∧ wall < wallLimit
deriving DecidableEq

instance : Inhabited Moment := ⟨⟨0, none, by decide⟩⟩

inductive Fault
  /-- The result lies outside the years 1 to 9999. -/
  | outOfRange
  /-- A moment with an offset was compared with one without. -/
  | mixedKinds
  /-- An interval would start after its end. -/
  | reversed (start stop : Moment)
deriving DecidableEq

namespace Moment

def ofWall (wall : Int) (offset : Option Int) : Except Fault Moment :=
  if h : 0 ≤ wall ∧ wall < wallLimit then .ok ⟨wall, offset, h⟩ else .error .outOfRange

def shift (m : Moment) (distance : Int) : Except Fault Moment :=
  ofWall (m.wall + distance) m.offset

/-- The reading in UTC, or the reading itself when no offset is known. -/
def instant (m : Moment) : Int := m.wall - m.offset.getD 0

/-- Both moments have an offset, or neither has. -/
def SameKind (a b : Moment) : Prop := a.offset.isSome = b.offset.isSome

instance (a b : Moment) : Decidable (SameKind a b) := inferInstanceAs (Decidable (_ = _))

def isAfter (a b : Moment) : Except Fault Bool :=
  if SameKind a b then .ok (b.instant < a.instant) else .error .mixedKinds

theorem isAfter_eq_false {a b : Moment} (hk : SameKind a b) (h : a.instant ≤ b.instant) :
    a.isAfter b = .ok false := by
  simp only [isAfter, if_pos hk, decide_eq_false (Int.not_lt.2 h)]

def day (m : Moment) : Int := m.wall / dayLength

def timeOfDay (m : Moment) : Int := m.wall % dayLength

def hourStart (m : Moment) : Moment :=
  ⟨m.wall - m.wall % hour, m.offset, by
    have := m.wall_mem
    simp only [hour, wallLimit] at *
    omega⟩

def hourEnd (m : Moment) : Moment :=
  ⟨m.wall - m.wall % hour + (hour - 1), m.offset, by
    have := m.wall_mem
    simp only [hour, wallLimit] at *
    omega⟩

def dayStart (m : Moment) : Moment :=
  ⟨m.wall - m.wall % dayLength, m.offset, by
    have := m.wall_mem
    simp only [dayLength, wallLimit] at *
    omega⟩

def dayEnd (m : Moment) : Moment :=
  ⟨m.wall - m.wall % dayLength + (dayLength - 1), m.offset, by
    have := m.wall_mem
    simp only [dayLength, wallLimit] at *
    omega⟩

def monthFirst (m : Moment) : Moment :=
  ⟨monthStart m.day * dayLength + m.timeOfDay, m.offset, by
    have hw := m.wall_mem
    have hd : 0 ≤ m.day := by simp only [day, dayLength]; omega
    have hs := monthStart_range m.day hd
    simp only [day, timeOfDay, dayLength, wallLimit] at *
    omega⟩

def dropOffset (m : Moment) : Moment := ⟨m.wall, none, m.wall_mem⟩

end Moment
end DependencyGate.Time
