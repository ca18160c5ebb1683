import DependencyGate.Fault
import DependencyGate.Time.Zone

/-!
# Date expressions

An expression names a period relative to a reference moment: hours, days, weeks that
start on Monday, or months. `Expression.days` and `Expression.hours` turn it into one
interval per day or hour, oldest first. With a time zone, days are days of its
calendar, and hours step back in absolute time (`resolve`).
-/

namespace DependencyGate

open Json (Value)
open Time (Moment Interval Zone ZoneBase)

inductive Weekday
  | monday
  | tuesday
  | wednesday
  | thursday
  | friday
  | saturday
  | sunday
deriving DecidableEq, Repr

def Weekday.index : Weekday → Int
  | .monday => 0
  | .tuesday => 1
  | .wednesday => 2
  | .thursday => 3
  | .friday => 4
  | .saturday => 5
  | .sunday => 6

inductive Expression
  | currentHour
  | lastHours (count : Nat)
  | today
  | lastDays (count : Nat)
  | thisWeek
  | lastWeek
  | thisMonth
  | lastMonth
  | lastMonthBegin
  | lastMonthEnd
  | lastWeekday (day : Weekday)
deriving DecidableEq, Repr

-- ---------------------------------------------------------------------------
-- References
-- ---------------------------------------------------------------------------

/-- What an expression is resolved at. A native reference was made with the zone itself, whose own
offset it has whatever the offset in force is. -/
structure Reference (zone : Option Zone) where
  moment : Moment
  native : Bool := false
  own : native = true → ∃ z, zone = some z ∧ moment.offset = some z.ownOffset := by nofun

instance : Coe Moment (Reference zone) := ⟨fun m => { moment := m }⟩

/-- A reference with an offset as a moment of the zone. A native one counts as converted. -/
def Reference.converted {z : Zone} (r : Reference (some z)) : Except Time.Fault Moment :=
  if r.native then .ok r.moment else z.atInstant r.moment

-- ---------------------------------------------------------------------------
-- Expressions
-- ---------------------------------------------------------------------------

namespace Expression

def named : List (String × Expression) :=
  [("currentHour", .currentHour), ("last1Hour", .lastHours 1), ("last2Hours", .lastHours 2),
   ("last3Hours", .lastHours 3), ("today", .today), ("last1Days", .lastDays 1),
   ("last2Days", .lastDays 2), ("last3Days", .lastDays 3), ("last7Days", .lastDays 7),
   ("thisWeek", .thisWeek), ("lastWeek", .lastWeek), ("thisMonth", .thisMonth),
   ("lastMonth", .lastMonth), ("lastMonthBegin", .lastMonthBegin),
   ("lastMonthEnd", .lastMonthEnd), ("lastMonday", .lastWeekday .monday),
   ("lastTuesday", .lastWeekday .tuesday), ("lastWednesday", .lastWeekday .wednesday),
   ("lastThursday", .lastWeekday .thursday), ("lastFriday", .lastWeekday .friday),
   ("lastSaturday", .lastWeekday .saturday), ("lastSunday", .lastWeekday .sunday)]

def names : List String := named.map (·.1)

def ofName? (name : String) : Option Expression :=
  (named.find? fun entry => entry.1 == name).map (·.2)

def isSupported (name : String) : Bool := (ofName? name).isSome

/-- The hours to step back, oldest first; other expressions have none. -/
def hourSteps? : Expression → Option (List Nat)
  | .currentHour => some [0]
  | .lastHours count => some ((List.range count).reverse.map (· + 1))
  | _ => none

-- ---------------------------------------------------------------------------
-- Days
-- ---------------------------------------------------------------------------

def shiftDays (m : Moment) (days : Int) : Except Time.Fault Moment :=
  m.shift (days * Time.dayLength)

/-- `count` days from that of `day` on. The day after the last one must exist as well. -/
def daysFrom (day : Moment) : Nat → Except Time.Fault (List Interval)
  | 0 => .ok []
  | count + 1 => do
    let next ← shiftDays day 1
    let rest ← daysFrom next count
    return Interval.dayOf day :: rest

def daysBetween (first last : Moment) : Except Time.Fault (List Interval) :=
  daysFrom first (last.day - first.day + 1).toNat

def daysBefore (m : Moment) : Nat → Except Time.Fault (List Interval)
  | 0 => .ok []
  | count + 1 => do
    let day ← shiftDays m (-((count : Int) + 1))
    let rest ← daysBefore m count
    return Interval.dayOf day :: rest

def mondayOf (m : Moment) : Except Time.Fault Moment :=
  shiftDays m (-Time.weekday m.day)

def lastMondayOf (m : Moment) : Except Time.Fault Moment := do
  shiftDays (← mondayOf m) (-7)

def lastMonthLast (m : Moment) : Except Time.Fault Moment :=
  shiftDays m.monthFirst (-1)

def days (e : Expression) (m : Moment) : Except Time.Fault (List Interval) :=
  match e with
  | .currentHour => .ok []
  | .lastHours _ => .ok []
  | .today => .ok [Interval.dayOf m]
  | .lastDays count => daysBefore m count
  | .thisWeek => do daysBetween (← mondayOf m) m
  | .lastWeek => do
    let monday ← lastMondayOf m
    daysBetween monday (← shiftDays monday 6)
  | .thisMonth => daysBetween m.monthFirst m
  | .lastMonth => do
    let last ← lastMonthLast m
    daysBetween last.monthFirst last
  | .lastMonthBegin => do return [Interval.dayOf (← lastMonthLast m).monthFirst]
  | .lastMonthEnd => do return [Interval.dayOf (← lastMonthLast m)]
  | .lastWeekday day => do
    return [Interval.dayOf (← shiftDays (← lastMondayOf m) day.index)]

def localizeInterval (z : Zone) (i : Interval) : Except Time.Fault Interval := do
  let start ← z.localize i.start
  let stop ← z.localize i.stop
  Interval.make start stop

-- ---------------------------------------------------------------------------
-- Hours
-- ---------------------------------------------------------------------------

def hourBack (m : Moment) (steps : Nat) : Except Time.Fault Interval := do
  return Interval.hourOf (← m.shift (-(steps * Time.hour)))

/-- The hour of a zone's clock `steps` hours back in absolute time. -/
def zonedHourBack (z : Zone) (m : Moment) (steps : Nat) : Except Time.Fault Interval := do
  let back ← m.shift (-(steps * Time.hour))
  return Interval.hourOf (← z.normalize back)

/-- A reference on a zone's clock: read there when it has no offset, else converted. -/
def onClock (z : Zone) (r : Reference (some z)) : Except Time.Fault Moment :=
  match r.moment.offset with
  | none => z.localize r.moment
  | some _ => r.converted

-- ---------------------------------------------------------------------------
-- Resolution
-- ---------------------------------------------------------------------------

def wallClock (z : Zone) (r : Reference (some z)) : Except Time.Fault Moment :=
  match r.moment.offset with
  | none => .ok r.moment
  | some _ => do return (← r.converted).dropOffset

def intervals : (zone : Option Zone) → Reference zone → Expression →
    Except Time.Fault (List Interval)
  | none, reference, e =>
    match e.hourSteps? with
    | some steps => steps.mapM (hourBack reference.moment)
    | none => e.days reference.moment
  | some z, reference, e =>
    match e.hourSteps? with
    | some steps => do
      let m ← onClock z reference
      steps.mapM (zonedHourBack z m)
    | none => do
      let m ← wallClock z reference
      (← e.days m).mapM (localizeInterval z)

end Expression

/-- The zone to resolve dates in; no name and the empty name stand for none. -/
def findZone (zones : ZoneBase) (name : Option String) : Except Foreign (Option Zone) :=
  match name with
  | none => .ok none
  | some "" => .ok none
  | some name =>
    match zones.find name with
    | .ok z => .ok (some z)
    | .error spelling => .error (.unknownZone spelling)

def supportsDate (date : Value) : Except Foreign Bool := do
  checkKey date
  match date with
  | .str name => return Expression.isSupported name
  | _ => return false

def resolve (zone : Option Zone) (reference : Reference zone) (date : Value) :
    Except Foreign (List Interval) := do
  checkKey date
  match date with
  | .str name =>
    match Expression.ofName? name with
    | none => .error (.unknownExpression date)
    | some e => (e.intervals zone reference).mapError .time
  | _ => .error (.unknownExpression date)

end DependencyGate
