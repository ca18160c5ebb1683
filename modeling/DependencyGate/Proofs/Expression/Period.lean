import DependencyGate.Expression
import DependencyGate.Proofs.Computation
import DependencyGate.Proofs.Time.Months
import DependencyGate.Proofs.Time.Tiling

/-!
# The period of an expression

`NamesHour` and `NamesDay` say of an hour or a day of a clock whether an expression means
it, by the calendar alone. Whatever way the intervals of an expression are found, they tile
the units that it means (`hours_tile`, `days_tile`).
-/

namespace DependencyGate

open Time (Date Interval Moment Tiles dayLength hour monthNumber monthOpening weekNumber
  weekday)

namespace Expression

def NamesHour (e : Expression) (now h : Int) : Prop :=
  match e with
  | .currentHour => h = now
  | .lastHours count => now - count ≤ h ∧ h < now
  | _ => False

def NamesDay (e : Expression) (today day : Int) : Prop :=
  match e with
  | .currentHour => False
  | .lastHours _ => False
  | .today => day = today
  | .lastDays count => today - count ≤ day ∧ day < today
  | .thisWeek => weekNumber day = weekNumber today ∧ day ≤ today
  | .lastWeek => weekNumber day = weekNumber today - 1
  | .thisMonth => monthNumber day = monthNumber today ∧ day ≤ today
  | .lastMonth => monthNumber day = monthNumber today - 1
  | .lastMonthBegin => monthNumber day = monthNumber today - 1 ∧ (Date.ofDay day).day = 1
  | .lastMonthEnd => monthNumber day = monthNumber today - 1 ∧
      (Date.ofDay day).day = Time.daysInMonth (Date.ofDay day).year (Date.ofDay day).month
  | .lastWeekday d => weekNumber day = weekNumber today - 1 ∧ weekday day = d.index

/-- A reading of a clock belongs to the period that the expression denotes when the clock
shows `now`. -/
def Denotes (e : Expression) (now reading : Int) : Prop :=
  e.NamesHour (now / hour) (reading / hour) ∨ e.NamesDay (now / dayLength) (reading / dayLength)

theorem not_namesDay {e : Expression} (h : e.hourSteps?.isSome) (today day : Int) :
    ¬ e.NamesDay today day := by
  cases e <;> first | exact id | cases h

theorem not_namesHour {e : Expression} (h : e.hourSteps? = none) (now number : Int) :
    ¬ e.NamesHour now number := by
  cases e <;> first | exact id | cases h

-- ---------------------------------------------------------------------------
-- Moving on the clock
-- ---------------------------------------------------------------------------

theorem shift_ok {m : Moment} (h : m.shift distance = .ok m') :
    m'.wall = m.wall + distance ∧ m'.offset = m.offset := by
  unfold Moment.shift Moment.ofWall at h
  split at h
  · cases h
    exact ⟨rfl, rfl⟩
  · cases h

theorem shiftDays_ok (h : shiftDays m count = .ok m') :
    m'.day = m.day + count ∧ m'.offset = m.offset := by
  obtain ⟨hwall, hoffset⟩ := shift_ok h
  refine ⟨?_, hoffset⟩
  simp only [Moment.day, hwall, dayLength]
  omega

theorem monthFirst_day (m : Moment) : m.monthFirst.day = monthOpening (monthNumber m.day) := by
  rw [← Time.monthStart_eq]
  simp only [Moment.monthFirst, Moment.day, Moment.timeOfDay, dayLength]
  omega

theorem mondayOf_ok (h : mondayOf m = .ok m') :
    m'.day = m.day - weekday m.day ∧ m'.offset = m.offset := shiftDays_ok h

theorem lastMondayOf_ok (h : lastMondayOf m = .ok m') :
    m'.day = m.day - weekday m.day - 7 ∧ m'.offset = m.offset := by
  obtain ⟨monday, hmonday, h⟩ := bind_ok.mp h
  obtain ⟨hday, hoffset⟩ := mondayOf_ok hmonday
  obtain ⟨hday', hoffset'⟩ := shiftDays_ok h
  exact ⟨by omega, hoffset'.trans hoffset⟩

theorem lastMonthLast_ok (h : lastMonthLast m = .ok m') :
    m'.day = monthOpening (monthNumber m.day) - 1 ∧ m'.offset = m.offset := by
  obtain ⟨hday, hoffset⟩ := shiftDays_ok h
  rw [monthFirst_day] at hday
  exact ⟨by omega, hoffset⟩

-- ---------------------------------------------------------------------------
-- Ways of walking
-- ---------------------------------------------------------------------------

theorem dayOf_tiles (m : Moment) :
    Tiles dayLength m.offset m.day [Interval.dayOf m] (m.day + 1) :=
  .single (Interval.dayOf_fills m)

theorem daysFrom_tiles {count : Nat} (h : daysFrom m count = .ok is) :
    Tiles dayLength m.offset m.day is (m.day + count) := by
  induction count generalizing m is with
  | zero =>
    cases h
    rw [Int.natCast_zero, Int.add_zero]
    exact .nil _
  | succ count ih =>
    obtain ⟨next, hnext, h⟩ := bind_ok.mp h
    obtain ⟨rest, hrest, h⟩ := bind_ok.mp h
    obtain ⟨hday, hoffset⟩ := shiftDays_ok hnext
    cases pure_ok.mp h
    have hrest := ih hrest
    rw [hday, hoffset, Int.add_assoc, Int.add_comm 1] at hrest
    exact .cons (Interval.dayOf_fills m) hrest

theorem daysBetween_tiles (h : daysBetween m m' = .ok is) (hle : m.day ≤ m'.day) :
    Tiles dayLength m.offset m.day is (m'.day + 1) := by
  have htiles := daysFrom_tiles h
  have hpast : m.day + (m'.day - m.day + 1).toNat = m'.day + 1 := by omega
  rw [hpast] at htiles
  exact htiles

theorem daysBefore_tiles {count : Nat} (h : daysBefore m count = .ok is) :
    Tiles dayLength m.offset (m.day - count) is m.day := by
  induction count generalizing is with
  | zero =>
    cases h
    rw [Int.natCast_zero, Int.sub_zero]
    exact .nil _
  | succ count ih =>
    obtain ⟨day, hday, h⟩ := bind_ok.mp h
    obtain ⟨rest, hrest, h⟩ := bind_ok.mp h
    obtain ⟨hnumber, hoffset⟩ := shiftDays_ok hday
    cases pure_ok.mp h
    have hfills := Interval.dayOf_fills day
    have hfirst : day.day = m.day - (count + 1 : Nat) := by omega
    have hnext : m.day - (count + 1 : Nat) + 1 = m.day - count := by omega
    rw [hoffset, hfirst] at hfills
    refine .cons hfills ?_
    rw [hnext]
    exact ih hrest

-- ---------------------------------------------------------------------------
-- The days of an expression
-- ---------------------------------------------------------------------------

/-- The days that are found tile the days that the expression means. -/
theorem days_tile {e : Expression} (h : e.days m = .ok is) :
    ∃ first past, Tiles dayLength m.offset first is past ∧
      ∀ day, first ≤ day ∧ day < past ↔ e.NamesDay m.day day := by
  cases e with
  | currentHour =>
    cases h
    exact ⟨0, 0, .nil 0, fun day => ⟨fun hday => absurd hday.2 (Int.not_lt.mpr hday.1), False.elim⟩⟩
  | lastHours count =>
    cases h
    exact ⟨0, 0, .nil 0, fun day => ⟨fun hday => absurd hday.2 (Int.not_lt.mpr hday.1), False.elim⟩⟩
  | today =>
    cases h
    exact ⟨_, _, dayOf_tiles m, fun day => by simp only [NamesDay]; omega⟩
  | lastDays count => exact ⟨_, _, daysBefore_tiles h, fun day => Iff.rfl⟩
  | thisWeek =>
    obtain ⟨monday, hmonday, h⟩ := bind_ok.mp h
    obtain ⟨hday, hoffset⟩ := mondayOf_ok hmonday
    have htiles := daysBetween_tiles h (by simp only [hday, weekday]; omega)
    rw [hday, hoffset] at htiles
    refine ⟨_, _, htiles, fun day => ?_⟩
    simp only [NamesDay, weekNumber, weekday]
    omega
  | lastWeek =>
    obtain ⟨monday, hmonday, h⟩ := bind_ok.mp h
    obtain ⟨sunday, hsunday, h⟩ := bind_ok.mp h
    obtain ⟨hday, hoffset⟩ := lastMondayOf_ok hmonday
    obtain ⟨hlast, -⟩ := shiftDays_ok hsunday
    have htiles := daysBetween_tiles h (by omega)
    rw [hlast, hday, hoffset] at htiles
    refine ⟨_, _, htiles, fun day => ?_⟩
    simp only [NamesDay, weekNumber, weekday]
    omega
  | lastWeekday d =>
    obtain ⟨monday, hmonday, h⟩ := bind_ok.mp h
    obtain ⟨m', hm', h⟩ := bind_ok.mp h
    obtain ⟨hday, hoffset⟩ := lastMondayOf_ok hmonday
    obtain ⟨hday', hoffset'⟩ := shiftDays_ok hm'
    cases pure_ok.mp h
    have htiles := dayOf_tiles m'
    rw [hday', hday, hoffset', hoffset] at htiles
    refine ⟨_, _, htiles, fun day => ?_⟩
    cases d <;> simp only [NamesDay, weekNumber, weekday, Weekday.index] <;> omega
  | thisMonth =>
    obtain ⟨hle, hlt⟩ := Time.monthNumber_bounds m.day
    have htiles := daysBetween_tiles h (by rw [monthFirst_day]; exact hle)
    rw [monthFirst_day] at htiles
    refine ⟨_, _, htiles, fun day => ?_⟩
    simp only [NamesDay, Time.monthNumber_eq_iff]
    omega
  | lastMonth =>
    obtain ⟨last, hlast, h⟩ := bind_ok.mp h
    obtain ⟨hday, hoffset⟩ := lastMonthLast_ok hlast
    obtain ⟨hle, -⟩ := Time.monthNumber_bounds last.day
    have htiles := daysBetween_tiles h (by rw [monthFirst_day]; exact hle)
    rw [monthFirst_day, hday, Time.monthNumber_last, Int.sub_add_cancel] at htiles
    refine ⟨_, _, hoffset ▸ htiles, fun day => ?_⟩
    simp only [NamesDay, Time.monthNumber_eq_iff, Int.sub_add_cancel]
  | lastMonthBegin =>
    obtain ⟨last, hlast, h⟩ := bind_ok.mp h
    obtain ⟨hday, hoffset⟩ := lastMonthLast_ok hlast
    cases pure_ok.mp h
    have htiles := dayOf_tiles last.monthFirst
    rw [monthFirst_day, hday, Time.monthNumber_last] at htiles
    refine ⟨_, _, hoffset ▸ htiles, fun day => ?_⟩
    rw [NamesDay, Time.first_of_month_iff]
    omega
  | lastMonthEnd =>
    obtain ⟨last, hlast, h⟩ := bind_ok.mp h
    obtain ⟨hday, hoffset⟩ := lastMonthLast_ok hlast
    cases pure_ok.mp h
    have htiles := dayOf_tiles last
    rw [hday, hoffset] at htiles
    refine ⟨_, _, htiles, fun day => ?_⟩
    rw [NamesDay, Time.last_of_month_iff]
    omega

-- ---------------------------------------------------------------------------
-- The hours of an expression
-- ---------------------------------------------------------------------------

theorem hourBack_ok (h : hourBack m steps = .ok i) :
    i.Fills hour m.offset (m.wall / hour - steps) := by
  obtain ⟨back, hback, h⟩ := bind_ok.mp h
  obtain ⟨hwall, hoffset⟩ := shift_ok hback
  cases pure_ok.mp h
  have hfills := Interval.hourOf_fills back
  have hnumber : back.wall / hour = m.wall / hour - steps := by
    simp only [hwall, hour]
    omega
  rw [hnumber, hoffset] at hfills
  exact hfills

theorem hoursBack_tile {count : Nat}
    (h : ((List.range count).reverse.map (· + 1)).mapM (hourBack m) = .ok is) :
    Tiles hour m.offset (m.wall / hour - count) is (m.wall / hour) := by
  induction count generalizing is with
  | zero =>
    cases h
    rw [Int.natCast_zero, Int.sub_zero]
    exact .nil _
  | succ count ih =>
    rw [List.range_succ, List.reverse_append, List.reverse_singleton, List.singleton_append,
      List.map_cons, List.mapM_cons] at h
    obtain ⟨i, hi, h⟩ := bind_ok.mp h
    obtain ⟨rest, hrest, h⟩ := bind_ok.mp h
    cases pure_ok.mp h
    have hnext : m.wall / hour - (count + 1 : Nat) + 1 = m.wall / hour - count := by omega
    refine .cons (hourBack_ok hi) ?_
    rw [hnext]
    exact ih hrest

theorem hours_tile {e : Expression} (hsteps : e.hourSteps? = some steps)
    (h : steps.mapM (hourBack m) = .ok is) :
    ∃ first past, Tiles hour m.offset first is past ∧
      ∀ number, first ≤ number ∧ number < past ↔ e.NamesHour (m.wall / hour) number := by
  cases e with
  | currentHour =>
    cases hsteps
    rw [List.mapM_cons] at h
    obtain ⟨i, hi, h⟩ := bind_ok.mp h
    cases pure_ok.mp h
    exact ⟨_, _, .single (hourBack_ok hi), fun number => by simp only [NamesHour]; omega⟩
  | lastHours count =>
    cases hsteps
    exact ⟨_, _, hoursBack_tile h, fun number => Iff.rfl⟩
  | _ => cases hsteps

end Expression
end DependencyGate
