import DependencyGate.Proofs.Expression.Period

/-!
# When an expression has its intervals

A move on the clock fails where it would leave the calendar, and nowhere else. So the intervals of
an expression are found when every hour or day of its period is on the calendar, with one
exception: `thisWeek` and `thisMonth` walk one day past that of the reference, which the last day
of the calendar does not have (`intervals_needs`).
-/

namespace DependencyGate

namespace Time

def lastDay : Int := wallLimit / dayLength - 1

theorem Moment.day_mem (m : Moment) : 0 ≤ m.day ∧ m.day ≤ lastDay := by
  have hm := m.wall_mem
  simp only [Moment.day, lastDay, dayLength, wallLimit] at *
  omega

theorem readings_mem_iff {unit last : Int} {P : Int → Prop} (hunit : 0 < unit)
    (hlimit : wallLimit = (last + 1) * unit) :
    (∀ reading, P (reading / unit) → 0 ≤ reading ∧ reading < wallLimit) ↔
      ∀ number, P number → 0 ≤ number ∧ number ≤ last := by
  have hmem : ∀ reading, 0 ≤ reading ∧ reading < wallLimit ↔
      0 ≤ reading / unit ∧ reading / unit ≤ last := fun reading => by
    rw [hlimit, Int.le_ediv_iff_mul_le hunit, Int.zero_mul, ← Int.ediv_lt_iff_lt_mul hunit,
      Int.lt_add_one_iff]
  simp only [hmem]
  refine ⟨fun hall number hnumber => ?_, fun hall reading => hall _⟩
  have hnumber' : number * unit / unit = number := Int.mul_ediv_cancel _ hunit.ne'
  exact hnumber' ▸ hall (number * unit) (hnumber'.symm ▸ hnumber)

end Time

open Time (Moment dayLength hour lastDay monthNumber monthOpening wallLimit weekNumber
  weekday)

namespace Expression

-- ---------------------------------------------------------------------------
-- Room
-- ---------------------------------------------------------------------------

/-- A computation on the clock returns where it has room, and elsewhere leaves the calendar. -/
structure Needs (room : Prop) (x : Except Time.Fault α) : Prop where
  returns : room → ∃ a, x = .ok a
  leaves : ¬ room → x = .error .outOfRange

section
variable {p q : Prop} {x : Except Time.Fault α} {f : α → Except Time.Fault β}

theorem Needs.congr (hx : Needs p x) (h : p ↔ q) : Needs q x :=
  ⟨fun hq => hx.returns (h.mpr hq), fun hq => hx.leaves (mt h.mp hq)⟩

theorem Needs.of_returns (hp : p) (hx : ∃ a, x = .ok a) : Needs p x :=
  ⟨fun _ => hx, fun h => absurd hp h⟩

theorem Needs.bind (hx : Needs p x) (hf : ∀ a, x = .ok a → Needs q (f a)) :
    Needs (p ∧ q) (x >>= f) := by
  by_cases hp : p
  · obtain ⟨a, ha⟩ := hx.returns hp
    rw [ha]
    exact (hf a ha).congr (and_iff_right hp).symm
  · rw [hx.leaves hp]
    exact ⟨fun h => absurd h.1 hp, fun _ => rfl⟩

theorem Needs.and_then (hx : Needs p x) (hf : ∀ a, x = .ok a → ∃ b, f a = .ok b) :
    Needs p (x >>= f) :=
  (hx.bind fun a ha => .of_returns trivial (hf a ha)).congr (and_iff_left trivial)

theorem Needs.mapM {p : α → Prop} {l : List α} (h : ∀ a, Needs (p a) (f a)) :
    Needs (∀ a ∈ l, p a) (l.mapM f) := by
  induction l with
  | nil => exact .of_returns (List.forall_mem_nil p) ⟨[], rfl⟩
  | cons a rest ih =>
    rw [List.mapM_cons]
    exact ((h a).bind fun b _ => ih.and_then fun bs _ => ⟨_, rfl⟩).congr
      List.forall_mem_cons.symm

end

-- ---------------------------------------------------------------------------
-- Moves
-- ---------------------------------------------------------------------------

variable {e : Expression}

theorem shift_needs (m : Moment) (distance : Int) :
    Needs (0 ≤ m.wall + distance ∧ m.wall + distance < wallLimit) (m.shift distance) where
  returns h := ⟨_, dif_pos h⟩
  leaves h := dif_neg h

theorem shiftDays_needs (m : Moment) (count : Int) :
    Needs (0 ≤ m.day + count ∧ m.day + count ≤ lastDay) (shiftDays m count) := by
  refine (shift_needs m (count * dayLength)).congr ?_
  simp only [Moment.day, lastDay, dayLength, wallLimit]
  omega

theorem mondayOf_returns (m : Moment) : ∃ monday, mondayOf m = .ok monday := by
  -- Day 0 is a Monday, so that the week of a day on the calendar starts on it.
  refine (shiftDays_needs m _).returns ?_
  have hm := m.day_mem
  simp only [weekday]
  omega

theorem lastMondayOf_needs (m : Moment) : Needs (7 ≤ m.day) (lastMondayOf m) := by
  have hm := m.day_mem
  refine ((Needs.of_returns trivial (mondayOf_returns m)).bind (q := 7 ≤ m.day)
    fun monday hmonday => (shiftDays_needs monday (-7)).congr ?_).congr (and_iff_right trivial)
  rw [(mondayOf_ok hmonday).1, weekday]
  omega

theorem shiftDays_returns (h : lastMondayOf m = .ok monday) (count : Int)
    (hcount : 0 ≤ count ∧ count ≤ 6) :
    ∃ m', shiftDays monday count = .ok m' ∧ monday.day ≤ m'.day ∧ m'.day < m.day := by
  have hm := m.day_mem
  have hmonday := monday.day_mem
  have hday := (lastMondayOf_ok h).1
  simp only [weekday] at hday
  obtain ⟨m', hm'⟩ := (shiftDays_needs monday count).returns (by omega)
  have hday' := (shiftDays_ok hm').1
  exact ⟨m', hm', by omega, by omega⟩

theorem lastMonthLast_needs (m : Moment) :
    Needs (0 < monthOpening (monthNumber m.day)) (lastMonthLast m) := by
  refine (shiftDays_needs m.monthFirst (-1)).congr ?_
  have hm := m.day_mem
  have hle := (Time.monthNumber_bounds m.day).1
  rw [monthFirst_day]
  omega

-- ---------------------------------------------------------------------------
-- Walks
-- ---------------------------------------------------------------------------

theorem daysFrom_needs (m : Moment) (count : Nat) :
    Needs (m.day + count ≤ lastDay) (daysFrom m count) := by
  have hm := m.day_mem
  induction count generalizing m with
  | zero => exact .of_returns (by omega) ⟨[], rfl⟩
  | succ count ih =>
    -- The walk moves on before it ends, also from the last of its days.
    refine ((shiftDays_needs m 1).bind (q := m.day + 1 + count ≤ lastDay)
      fun next hnext => .and_then ?_ fun rest _ => ⟨_, rfl⟩).congr (by omega)
    rw [← (shiftDays_ok hnext).1]
    exact ih next next.day_mem

theorem daysBetween_needs {m m' : Moment} (hle : m.day ≤ m'.day) :
    Needs (m'.day < lastDay) (daysBetween m m') :=
  (daysFrom_needs m _).congr (by omega)

theorem daysBefore_needs (m : Moment) (count : Nat) :
    Needs (count ≤ m.day) (daysBefore m count) := by
  have hm := m.day_mem
  induction count with
  | zero => exact .of_returns hm.1 ⟨[], rfl⟩
  | succ count ih =>
    exact ((shiftDays_needs m _).bind fun day _ => ih.and_then fun rest _ => ⟨_, rfl⟩).congr
      (by omega)

theorem hourBack_needs (m : Moment) (steps : Nat) :
    Needs (steps ≤ m.wall / hour) (hourBack m steps) := by
  refine ((shift_needs m _).and_then fun back _ => ⟨_, rfl⟩).congr ?_
  have hm := m.wall_mem
  simp only [hour, wallLimit] at *
  omega

-- ---------------------------------------------------------------------------
-- Periods on the calendar
-- ---------------------------------------------------------------------------

def OnCalendar (e : Expression) (now : Int) : Prop :=
  ∀ reading, e.Denotes now reading → 0 ≤ reading ∧ reading < wallLimit

theorem onCalendar_hours (h : e.hourSteps?.isSome) (now : Int) : e.OnCalendar now ↔
    ∀ number, e.NamesHour (now / hour) number → 0 ≤ number ∧ number ≤ wallLimit / hour - 1 := by
  simp only [OnCalendar, Denotes, not_namesDay h, or_false]
  exact Time.readings_mem_iff (by decide) (by decide)

theorem onCalendar_days (h : e.hourSteps? = none) (now : Int) : e.OnCalendar now ↔
    ∀ day, e.NamesDay (now / dayLength) day → 0 ≤ day ∧ day ≤ lastDay := by
  simp only [OnCalendar, Denotes, not_namesHour h, false_or]
  exact Time.readings_mem_iff (by decide) (by decide)

theorem weekBefore_mem {m : Moment} (hm : 7 ≤ m.day)
    (hday : weekNumber day = weekNumber m.day - 1) : 0 ≤ day ∧ day ≤ lastDay := by
  -- Day 0 opens a week, so that no week straddles it.
  have hlast := m.day_mem.2
  simp only [weekNumber] at hday
  omega

theorem monthBefore_opening (month : Int) :
    0 < monthOpening month ↔ 0 ≤ monthOpening (month - 1) := by
  -- Month 12 is the first January, and day 0 opens it.
  have hfirst : monthOpening 12 = 0 := by decide
  rw [← hfirst, Time.monthOpening_lt_iff, Time.monthOpening_le_iff]
  omega

theorem monthBefore_mem {m : Moment} (hm : 0 < monthOpening (monthNumber m.day))
    (hday : monthNumber day = monthNumber m.day - 1) : 0 ≤ day ∧ day ≤ lastDay := by
  have hlast := m.day_mem.2
  have htoday := (Time.monthNumber_bounds m.day).1
  obtain ⟨hle, hlt⟩ := Time.monthNumber_bounds day
  rw [monthBefore_opening, ← hday] at hm
  rw [hday, Int.sub_add_cancel] at hlt
  omega

-- ---------------------------------------------------------------------------
-- Expressions
-- ---------------------------------------------------------------------------

theorem hours_needs (hsteps : e.hourSteps? = some steps) (m : Moment) :
    Needs (e.OnCalendar m.wall) (steps.mapM (hourBack m)) := by
  refine (Needs.mapM (hourBack_needs m)).congr ?_
  rw [onCalendar_hours (by rw [hsteps, Option.isSome_some])]
  have hm := m.wall_mem
  cases e with
  | currentHour =>
    cases hsteps
    simp only [List.forall_mem_singleton, NamesHour, forall_eq, hour, wallLimit] at *
    omega
  | lastHours count =>
    cases hsteps
    simp only [NamesHour, List.forall_mem_map, List.mem_reverse, List.mem_range]
    constructor
    · intro hall number hnumber
      have hback := hall (m.wall / hour - number - 1).toNat (by omega)
      simp only [hour, wallLimit] at *
      omega
    · intro hall back hback
      have hnumber := hall (m.wall / hour - (back + 1)) (by omega)
      omega
  | _ => cases hsteps

/-- The days of the expression are walked through up to that of the reference. -/
def WalksToToday (e : Expression) : Prop := e = .thisWeek ∨ e = .thisMonth

theorem days_needs (hdays : e.hourSteps? = none) (hwalk : ¬ e.WalksToToday) (m : Moment) :
    Needs (e.OnCalendar m.wall) (e.days m) := by
  refine Needs.congr ?_ (onCalendar_days hdays m.wall).symm
  have hm := m.day_mem
  rw [← Moment.day]
  cases e with
  | currentHour => cases hdays
  | lastHours count => cases hdays
  | thisWeek => exact absurd (.inl rfl) hwalk
  | thisMonth => exact absurd (.inr rfl) hwalk
  | today => exact .of_returns (fun day hday => hday ▸ hm) ⟨_, rfl⟩
  | lastDays count =>
    refine (daysBefore_needs m count).congr ⟨fun hle day hday => ?_, fun hall => ?_⟩
    · simp only [NamesDay] at hday
      omega
    · by_contra hlt
      have hfirst := hall (m.day - count) (by simp only [NamesDay]; omega)
      omega
  | lastWeek =>
    refine (Needs.and_then (lastMondayOf_needs m) fun monday hmonday => ?_).congr
      ⟨fun hle day hday => weekBefore_mem hle hday, fun hall => ?_⟩
    · obtain ⟨sunday, hsunday, hle, hlt⟩ := shiftDays_returns hmonday 6 (by decide)
      obtain ⟨is, his⟩ := (daysBetween_needs hle).returns (hlt.trans_le hm.2)
      exact ⟨is, bind_ok.mpr ⟨sunday, hsunday, his⟩⟩
    · have hbefore := hall (m.day - 7) (by simp only [NamesDay, weekNumber]; omega)
      omega
  | lastWeekday d =>
    have hindex : 0 ≤ d.index ∧ d.index ≤ 6 := by cases d <;> decide
    refine (Needs.and_then (lastMondayOf_needs m) fun monday hmonday => ?_).congr
      ⟨fun hle day hday => weekBefore_mem hle hday.1, fun hall => ?_⟩
    · obtain ⟨m', hm', -⟩ := shiftDays_returns hmonday d.index hindex
      exact ⟨_, bind_ok.mpr ⟨m', hm', rfl⟩⟩
    · have hbefore := hall (m.day - weekday m.day - 7 + d.index)
        (by simp only [NamesDay, weekNumber, weekday]; omega)
      simp only [weekday] at hbefore
      omega
  | lastMonth =>
    refine (Needs.and_then (lastMonthLast_needs m) fun last hlast => ?_).congr
      ⟨fun hle day hday => monthBefore_mem hle hday, fun hall => ?_⟩
    · refine (daysBetween_needs ?_).returns ?_
      · rw [monthFirst_day]
        exact (Time.monthNumber_bounds last.day).1
      · have hday := (lastMonthLast_ok hlast).1
        have hle := (Time.monthNumber_bounds m.day).1
        omega
    · rw [monthBefore_opening]
      exact (hall _ (Time.monthNumber_opening _)).1
  | lastMonthBegin =>
    refine (Needs.and_then (lastMonthLast_needs m) fun last _ => ⟨_, rfl⟩).congr
      ⟨fun hle day hday => monthBefore_mem hle hday.1, fun hall => ?_⟩
    rw [monthBefore_opening]
    exact (hall _ (Time.first_of_month_iff.mpr rfl)).1
  | lastMonthEnd =>
    refine (Needs.and_then (lastMonthLast_needs m) fun last _ => ⟨_, rfl⟩).congr
      ⟨fun hle day hday => monthBefore_mem hle hday.1, fun hall => ?_⟩
    have hlast := (hall _ (Time.last_of_month_iff.mpr rfl)).1
    omega

theorem onCalendar_of_walks (hwalk : e.WalksToToday) (m : Moment) : e.OnCalendar m.wall := by
  have hm := m.day_mem
  rw [onCalendar_days (by rcases hwalk with rfl | rfl <;> rfl), ← Moment.day]
  intro day hday
  rcases hwalk with rfl | rfl
  · simp only [NamesDay, weekNumber] at hday
    omega
  · have hfirst := (Time.monthStart_range m.day hm.1).1
    rw [Time.monthStart_eq] at hfirst
    simp only [NamesDay, Time.monthNumber_eq_iff] at hday
    omega

theorem days_walk_needs (hwalk : e.WalksToToday) (m : Moment) :
    Needs (m.day < lastDay) (e.days m) := by
  rcases hwalk with rfl | rfl
  · obtain ⟨monday, hmonday⟩ := mondayOf_returns m
    have hle : monday.day ≤ m.day := by
      have hm := m.day_mem
      rw [(mondayOf_ok hmonday).1, weekday]
      omega
    rw [days, hmonday]
    exact daysBetween_needs hle
  · refine daysBetween_needs ?_
    rw [monthFirst_day]
    exact (Time.monthNumber_bounds m.day).1

/-- The period of the expression is on the calendar, and so is the day past that of the reference
if the walk over the period steps there. -/
def HasRoom (e : Expression) (m : Moment) : Prop :=
  e.OnCalendar m.wall ∧ ¬ (e.WalksToToday ∧ m.day = lastDay)

theorem hasRoom_iff (hwalk : ¬ e.WalksToToday) (m : Moment) :
    e.HasRoom m ↔ e.OnCalendar m.wall := by
  simp [HasRoom, hwalk]

theorem intervals_needs (e : Expression) (m : Moment) :
    Needs (e.HasRoom m) (e.intervals none m) := by
  simp only [intervals]
  cases hsteps : e.hourSteps? with
  | some steps =>
    have hwalk : ¬ e.WalksToToday := by rintro (rfl | rfl) <;> cases hsteps
    exact (hours_needs hsteps m).congr (hasRoom_iff hwalk m).symm
  | none =>
    by_cases hwalk : e.WalksToToday
    · have hm := m.day_mem
      refine (days_walk_needs hwalk m).congr ?_
      simp only [HasRoom, onCalendar_of_walks hwalk m, hwalk, true_and]
      omega
    · exact (days_needs hsteps hwalk m).congr (hasRoom_iff hwalk m).symm

-- ---------------------------------------------------------------------------
-- References far enough inside the calendar
-- ---------------------------------------------------------------------------

def reach : Expression → Nat
  | .lastHours count => count
  | .lastDays count => count
  | _ => 0

theorem reach_le (hname : ofName? name = some e) : e.reach ≤ 7 := by
  have hall : ∀ entry ∈ named, entry.2.reach ≤ 7 := by decide
  obtain ⟨entry, hentry, rfl⟩ := Option.map_eq_some_iff.mp hname
  exact hall entry (List.mem_of_find?_eq_some hentry)

theorem monthOpening_pos (h : 31 ≤ day) : 0 < monthOpening (monthNumber day) := by
  have hjanuary : monthOpening 12 = 0 := by decide
  have hfebruary : monthOpening 13 = 31 := by decide
  rw [← hfebruary] at h
  have hmonth := Time.monthOpening_lt_iff.mp (h.trans_lt (Time.monthNumber_bounds day).2)
  rw [← hjanuary, Time.monthOpening_lt_iff]
  omega

theorem onCalendar_inside {m : Moment} (hreach : e.reach ≤ 7) (hearly : 31 * dayLength ≤ m.wall) :
    e.OnCalendar m.wall := by
  have hm := m.day_mem
  have hday : 31 ≤ m.day := by simp only [Moment.day, dayLength] at *; omega
  cases hsteps : e.hourSteps? with
  | some steps =>
    rw [onCalendar_hours (by rw [hsteps, Option.isSome_some])]
    have hwall := m.wall_mem
    intro number hnumber
    cases e with
    | currentHour =>
      simp only [NamesHour, hour, wallLimit] at *
      omega
    | lastHours count =>
      simp only [NamesHour, reach, hour, dayLength, wallLimit] at *
      omega
    | _ => cases hsteps
  | none =>
    by_cases hwalk : e.WalksToToday
    · exact onCalendar_of_walks hwalk m
    rw [onCalendar_days hsteps, ← Moment.day]
    intro day hnamed
    cases e with
    | currentHour => cases hsteps
    | lastHours count => cases hsteps
    | thisWeek => exact absurd (.inl rfl) hwalk
    | thisMonth => exact absurd (.inr rfl) hwalk
    | today => exact hnamed ▸ hm
    | lastDays count =>
      simp only [NamesDay, reach] at *
      omega
    | lastWeek => exact weekBefore_mem (by omega) hnamed
    | lastWeekday d => exact weekBefore_mem (by omega) hnamed.1
    | lastMonth => exact monthBefore_mem (monthOpening_pos hday) hnamed
    | lastMonthBegin => exact monthBefore_mem (monthOpening_pos hday) hnamed.1
    | lastMonthEnd => exact monthBefore_mem (monthOpening_pos hday) hnamed.1

end Expression
end DependencyGate
