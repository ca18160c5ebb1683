import DependencyGate.Time.Interval

/-!
# Time zones

A zone is a fixed offset or a table of offset changes. Going from an instant to a
clock reading is a table look-up (`Zone.atInstant`). Going from a reading to an
instant (`Zone.localize`) looks for the regimes under which the clock shows that
reading: a reading shown twice is taken in standard time, else as the later one, and
a reading that was skipped gets the offset in force before the jump. Which names there
are and what zones they stand for is up to a `ZoneBase`.
-/

namespace DependencyGate.Time

structure Regime where
  offset : Int
  daylight : Int
deriving DecidableEq, Repr

structure Change where
  second : Int
  regime : Regime
deriving DecidableEq, Repr

/-- Changes in ascending order, and the regime before them all. -/
structure ZoneTable where
  first : Regime
  changes : List Change

inductive Zone
  /-- One offset for ever, in minutes. -/
  | fixed (offset : Int)
  | table (t : ZoneTable)

namespace ZoneTable

def regimeFrom (current : Regime) (changes : List Change) (utcSecond : Int) : Regime :=
  match changes with
  | [] => current
  | c :: rest => if c.second ≤ utcSecond then regimeFrom c.regime rest utcSecond else current

def regimeAt (t : ZoneTable) (utc : Int) : Regime :=
  regimeFrom t.first t.changes (utc / second)

def atUtc (t : ZoneTable) (utc : Int) : Except Fault Moment :=
  let offset := (t.regimeAt utc).offset * minute
  Moment.ofWall (utc + offset) (some offset)

/-- Goes from a reading under an offset to the reading in force at that instant. -/
def normalize (t : ZoneTable) (wall offset : Int) : Except Fault Moment :=
  match Moment.ofWall (wall - offset) none with
  | .error e => .error e
  | .ok utc => t.atUtc utc.wall

/-- The moment that shows `wall` under the regime found near it, if there is one. -/
def candidate (t : ZoneTable) (wall near : Int) : Except Fault (Option Moment) :=
  if 0 ≤ near ∧ near < wallLimit then
    match t.normalize wall ((t.regimeAt near).offset * minute) with
    | .error e => .error e
    | .ok m => .ok (if m.wall = wall then some m else none)
  else .ok none

def isStandard (t : ZoneTable) (m : Moment) : Bool :=
  (t.regimeAt m.instant).daylight = 0

def later (a b : Moment) : Moment := if a.instant < b.instant then b else a

/-- Of two moments with one reading: the only one in standard time, else the later. -/
def choose (t : ZoneTable) (a b : Moment) : Moment :=
  if a.instant = b.instant then a
  else
    match t.isStandard a, t.isStandard b with
    | true, false => a
    | false, true => b
    | _, _ => later a b

/-- How far a skipped reading is moved back before it is looked up again. -/
def skippedStep : Int := 6 * hour

/-- `localize` with as many steps back as `fuel` allows. -/
def localizeWithin (t : ZoneTable) : Nat → Int → Except Fault Moment
  | 0, _ => .error .outOfRange
  | fuel + 1, wall =>
    match t.candidate wall (wall - dayLength), t.candidate wall (wall + dayLength) with
    | .error e, _ => .error e
    | _, .error e => .error e
    | .ok (some a), .ok (some b) => .ok (t.choose a b)
    | .ok (some a), .ok none => .ok a
    | .ok none, .ok (some b) => .ok b
    | .ok none, .ok none =>
      if wall < skippedStep then .error .outOfRange
      else
        match t.localizeWithin fuel (wall - skippedStep) with
        | .error e => .error e
        | .ok m => m.shift skippedStep

def localize (t : ZoneTable) (wall : Int) : Except Fault Moment :=
  t.localizeWithin ((wall / skippedStep).toNat + 1) wall

end ZoneTable

namespace Zone

def atInstant (z : Zone) (m : Moment) : Except Fault Moment :=
  match Moment.ofWall m.instant none with
  | .error e => .error e
  | .ok utc =>
    match z with
    | .fixed offset => Moment.ofWall (utc.wall + offset * minute) (some (offset * minute))
    | .table t => t.atUtc utc.wall

def localize (z : Zone) (m : Moment) : Except Fault Moment :=
  match z with
  | .fixed offset => .ok ⟨m.wall, some (offset * minute), m.wall_mem⟩
  | .table t => t.localize m.wall

/-- The offset in force at the instant of a moment of this zone. -/
def normalize (z : Zone) (m : Moment) : Except Fault Moment :=
  match z with
  | .fixed _ => .ok m
  | .table t => t.normalize m.wall (m.offset.getD 0)

/-- The offset of the zone on its own, before it is settled at an instant. -/
def ownOffset : Zone → Int
  | .fixed offset => offset * minute
  | .table t => t.first.offset * minute

end Zone

-- ---------------------------------------------------------------------------
-- Names
-- ---------------------------------------------------------------------------

/-- The names of zones. A zone may be found under other spellings than the official ones, and
one that is not found is reported as it was looked up. -/
structure ZoneBase where
  isName : String → Bool
  find : String → Except String Zone

def ZoneBase.Complete (zones : ZoneBase) : Prop :=
  ∀ name, zones.isName name = true → ∃ z, zones.find name = .ok z

end DependencyGate.Time
