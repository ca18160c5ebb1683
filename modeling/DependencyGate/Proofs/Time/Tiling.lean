import DependencyGate.Time.Interval
import Mathlib.Data.List.Chain

/-!
# Runs of hours and days

The hours of a clock, and its days, are numbered through. Intervals tile the units from one
number up to another when each of them fills the next unit, first to last microsecond. Each
then begins one microsecond after the one before it ends (`Tiles.chain`), and of a moment of
their kind they hold the unit it falls into, and hold it once (`Tiles.inOne`, `Tiles.inNone`).
-/

namespace DependencyGate.Time

def Moment.readingOn (m : Moment) (offset : Option Int) : Int := m.instant + offset.getD 0

theorem Moment.isAfter_eq {a b : Moment} (h : SameKind a b) :
    a.isAfter b = .ok (decide (b.instant < a.instant)) := if_pos h

namespace Interval

/-- The ends of the interval read as the first and the last microsecond of a unit. -/
structure Spans (unit number : Int) (i : Interval) : Prop where
  start : i.start.wall = number * unit
  stop : i.stop.wall = number * unit + (unit - 1)

structure Fills (unit : Int) (offset : Option Int) (number : Int) (i : Interval) : Prop
    extends Spans unit number i where
  startOffset : i.start.offset = offset
  stopOffset : i.stop.offset = offset

theorem start_le_stop (i : Interval) : i.start.instant ≤ i.stop.instant := by
  have hordered := i.ordered
  unfold Moment.isAfter at hordered
  split at hordered
  · exact Int.not_lt.mp (of_decide_eq_false (Except.ok.inj hordered))
  · cases hordered

theorem contains_eq {i : Interval} {m : Moment} (hstart : Moment.SameKind i.start m)
    (hstop : Moment.SameKind m i.stop) : i.contains m =
      .ok (decide (i.start.instant ≤ m.instant ∧ m.instant ≤ i.stop.instant)) := by
  simp only [contains, Moment.isAfter_eq hstart, Moment.isAfter_eq hstop]
  by_cases h : m.instant < i.start.instant
  · simp [h]
  · by_cases h' : i.stop.instant < m.instant
    · simp [h, h', Int.not_le.mpr h']
    · simp [h, h', Int.not_lt.mp h, Int.not_lt.mp h']

theorem Fills.contains {i : Interval} {m : Moment} (h : i.Fills unit offset number)
    (hunit : 0 < unit) (hkind : offset.isSome = m.offset.isSome) :
    i.contains m = .ok (decide (m.readingOn offset / unit = number)) := by
  have hstart : Moment.SameKind i.start m := by rw [Moment.SameKind, h.startOffset, hkind]
  have hstop : Moment.SameKind m i.stop := by rw [Moment.SameKind, h.stopOffset, hkind]
  have hnumber : m.readingOn offset / unit = number ↔
      number * unit ≤ m.readingOn offset ∧ m.readingOn offset < (number + 1) * unit := by
    rw [← Int.le_ediv_iff_mul_le hunit, ← Int.ediv_lt_iff_lt_mul hunit]
    omega
  rw [contains_eq hstart hstop, decide_eq_decide.mpr]
  rw [hnumber, Int.add_mul, Int.one_mul]
  simp only [Moment.readingOn, Moment.instant, h.start, h.stop, h.startOffset, h.stopOffset]
  omega

theorem hourOf_fills (m : Moment) : (hourOf m).Fills hour m.offset (m.wall / hour) := by
  refine ⟨⟨?_, ?_⟩, rfl, rfl⟩ <;>
    simp only [hourOf, Moment.hourStart, Moment.hourEnd, hour] <;> omega

theorem dayOf_fills (m : Moment) : (dayOf m).Fills dayLength m.offset m.day := by
  refine ⟨⟨?_, ?_⟩, rfl, rfl⟩ <;>
    simp only [dayOf, Moment.dayStart, Moment.dayEnd, Moment.day, dayLength] <;> omega

end Interval

-- ---------------------------------------------------------------------------
-- Tilings
-- ---------------------------------------------------------------------------

/-- The intervals are the units of a clock from one number up to another. -/
inductive Tiles (unit : Int) (offset : Option Int) : Int → List Interval → Int → Prop
  | nil (number : Int) : Tiles unit offset number [] number
  | cons {first : Int} {i : Interval} {rest : List Interval} {past : Int}
      (hi : i.Fills unit offset first) (hrest : Tiles unit offset (first + 1) rest past) :
      Tiles unit offset first (i :: rest) past

def InOne (intervals : List Interval) (m : Moment) : Prop :=
  ∃ before i after, intervals = before ++ i :: after ∧ i.contains m = .ok true ∧
    ∀ j ∈ before ++ after, j.contains m = .ok false

def InNone (intervals : List Interval) (m : Moment) : Prop :=
  ∀ i ∈ intervals, i.contains m = .ok false

namespace Tiles

variable {unit : Int} {offset : Option Int} {first past : Int} {intervals : List Interval}

theorem single (h : i.Fills unit offset first) : Tiles unit offset first [i] (first + 1) :=
  .cons h (.nil _)

theorem le (h : Tiles unit offset first intervals past) : first ≤ past := by
  induction h with
  | nil => exact Int.le_refl _
  | cons _ _ ih => omega

theorem fills (h : Tiles unit offset first intervals past) (hi : i ∈ intervals) :
    ∃ number, first ≤ number ∧ number < past ∧ i.Fills unit offset number := by
  induction h with
  | nil => cases hi
  | @cons first j rest past hj hrest ih =>
    rcases List.mem_cons.mp hi with rfl | hi
    · have := hrest.le
      exact ⟨first, Int.le_refl first, by omega, hj⟩
    · obtain ⟨number, hfirst, hpast, hfills⟩ := ih hi
      exact ⟨number, by omega, hpast, hfills⟩

theorem chain (h : Tiles unit offset first intervals past) :
    intervals.IsChain fun a b => ∃ number, a.Fills unit offset number ∧
      b.Fills unit offset (number + 1) := by
  induction h with
  | nil => exact .nil
  | cons ha hrest ih =>
    cases hrest with
    | nil => exact .singleton _
    | cons hb hrest => exact .cons_cons ⟨_, ha, hb⟩ ih

theorem noGap (h : Tiles unit offset first intervals past) :
    intervals.IsChain fun a b => b.start.instant = a.stop.instant + 1 := by
  refine h.chain.imp fun a b ⟨number, ha, hb⟩ => ?_
  have hnext : (number + 1) * unit = number * unit + unit := by rw [Int.add_mul, Int.one_mul]
  simp only [Moment.instant, ha.stop, ha.stopOffset, hb.start, hb.startOffset]
  omega

theorem inOrder (hunit : 0 < unit) (h : Tiles unit offset first intervals past) :
    intervals.Pairwise fun a b => a.stop.instant < b.start.instant := by
  induction h with
  | nil => exact .nil
  | @cons first i rest past hi hrest ih =>
    refine .cons (fun j hj => ?_) ih
    obtain ⟨number, hfirst, -, hfills⟩ := hrest.fills hj
    have hle : (first + 1) * unit ≤ number * unit :=
      Int.mul_le_mul_of_nonneg_right hfirst (Int.le_of_lt hunit)
    rw [Int.add_mul, Int.one_mul] at hle
    simp only [Moment.instant, hi.stop, hi.stopOffset, hfills.start, hfills.startOffset]
    omega

section
variable {m : Moment} (hunit : 0 < unit) (hkind : offset.isSome = m.offset.isSome)
include hunit hkind

theorem inNone (h : Tiles unit offset first intervals past)
    (hm : ¬ (first ≤ m.readingOn offset / unit ∧ m.readingOn offset / unit < past)) :
    InNone intervals m := by
  intro i hi
  obtain ⟨number, hfirst, hpast, hfills⟩ := h.fills hi
  rw [hfills.contains hunit hkind, decide_eq_false]
  omega

theorem inOne (h : Tiles unit offset first intervals past)
    (hm : first ≤ m.readingOn offset / unit ∧ m.readingOn offset / unit < past) :
    InOne intervals m := by
  induction h with
  | nil => omega
  | @cons first i rest past hi hrest ih =>
    by_cases hfirst : m.readingOn offset / unit = first
    · refine ⟨[], i, rest, rfl, ?_, ?_⟩
      · rw [hi.contains hunit hkind, hfirst, decide_eq_true rfl]
      · exact hrest.inNone hunit hkind (by omega)
    · obtain ⟨before, j, after, rfl, hj, hothers⟩ := ih (by omega)
      refine ⟨i :: before, j, after, rfl, hj, List.forall_mem_cons.mpr ⟨?_, hothers⟩⟩
      rw [hi.contains hunit hkind, decide_eq_false hfirst]

end
end Tiles
end DependencyGate.Time
