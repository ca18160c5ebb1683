import DependencyGate.Proofs.History.Greatest
import DependencyGate.Proofs.Selection

/-!
# The row that stands for an interval

The three lookups in the tables and the comparison of two ends are one choice among the
rows of a definition: the greatest row under way if there is any, otherwise the greatest
that belongs to the interval (`Tables.standing?_eq_some_iff`). The rows are not read as
records here.
-/

namespace DependencyGate.History

open Time (Moment Interval)

-- ---------------------------------------------------------------------------
-- Rows in an interval
-- ---------------------------------------------------------------------------

/-- A time lies in an interval by the readings of the clocks; a missing one lies in none. -/
def Within (i : Interval) (time : Option Moment) : Prop :=
  ∃ m, time = some m ∧ i.start.wall ≤ m.wall ∧ m.wall ≤ i.stop.wall

namespace ProcessRow

def UnderWay (i : Interval) (r : ProcessRow) : Prop :=
  (∃ s ∈ Status.inFlight, r.state = s.name) ∧ (Within i r.schedule ∨ Within i r.start)

def Due (i : Interval) (r : ProcessRow) : Prop :=
  r.runMode = RunMode.scheduled.name ∧ Within i r.schedule

def Done (i : Interval) (r : ProcessRow) : Prop :=
  r.runMode = RunMode.manual.name ∧ Within i r.stop

/-- By stop, a scheduled one over a manual one, and then by id. -/
def choiceKey (r : ProcessRow) : WithBot Int ×ₗ Bool ×ₗ Int :=
  toLex (timeKey r.stop, toLex (r.runMode == RunMode.scheduled.name, r.id))

end ProcessRow

namespace Tables

def UnderWay (t : Tables) (definitionId : Int) (i : Interval) : ProcessRow → Prop :=
  t.OfDefinition definitionId (ProcessRow.UnderWay i)

def Belongs (t : Tables) (definitionId : Int) (i : Interval) : ProcessRow → Prop :=
  t.OfDefinition definitionId fun r => r.Due i ∨ r.Done i

/-- The row that stands for an interval: the last to start of those under way, and only
without any the last to end of those that belong to it. -/
def Stands (t : Tables) (definitionId : Int) (i : Interval) (r : ProcessRow) : Prop :=
  Greatest ProcessRow.startKey (t.UnderWay definitionId i) r ∨
    (∀ r', ¬ t.UnderWay definitionId i r') ∧
      Greatest ProcessRow.choiceKey (t.Belongs definitionId i) r

end Tables

-- ---------------------------------------------------------------------------
-- Lookups of rows
-- ---------------------------------------------------------------------------

variable {t : Tables} {n : Int} {i : Interval} {r : ProcessRow}

theorem inWindow_iff : inWindow i time = true ↔ Within i time := by
  cases time with
  | none => simp [inWindow, Within]
  | some m => simp [inWindow, Within]

theorem ProcessRow.isRunningIn_iff (r : ProcessRow) : r.isRunningIn i = true ↔ r.UnderWay i := by
  simp only [isRunningIn, inFlightNames, Bool.and_eq_true, Bool.or_eq_true, inWindow_iff,
    List.contains_iff_mem, List.mem_map, UnderWay, eq_comm (a := r.state)]

theorem ProcessRow.isScheduledIn_iff (r : ProcessRow) : r.isScheduledIn i = true ↔ r.Due i := by
  simp only [isScheduledIn, Bool.and_eq_true, beq_iff_eq, inWindow_iff, Due]

theorem ProcessRow.isManualIn_iff (r : ProcessRow) : r.isManualIn i = true ↔ r.Done i := by
  simp only [isManualIn, Bool.and_eq_true, beq_iff_eq, inWindow_iff, Done]

namespace Tables

theorem running?_eq_none_iff : t.running? n i = none ↔ ∀ r, ¬ t.UnderWay n i r :=
  latest?_eq_none_iff ProcessRow.isRunningIn_iff

theorem scheduled?_eq_none_iff :
    t.scheduled? n i = none ↔ ∀ r, ¬ t.OfDefinition n (ProcessRow.Due i) r :=
  latest?_eq_none_iff ProcessRow.isScheduledIn_iff

theorem manual?_eq_none_iff :
    t.manual? n i = none ↔ ∀ r, ¬ t.OfDefinition n (ProcessRow.Done i) r :=
  latest?_eq_none_iff ProcessRow.isManualIn_iff

section
variable (ht : KeptRows ProcessRow.id ProcessRow.stored t.processes)
include ht

theorem running?_eq_some_iff :
    t.running? n i = some r ↔ Greatest ProcessRow.startKey (t.UnderWay n i) r :=
  latest?_eq_some_iff ProcessRow.isRunningIn_iff ht ProcessRow.startsBefore_iff

theorem scheduled?_eq_some_iff : t.scheduled? n i = some r ↔
    Greatest ProcessRow.stopKey (t.OfDefinition n (ProcessRow.Due i)) r :=
  latest?_eq_some_iff ProcessRow.isScheduledIn_iff ht ProcessRow.stopsBefore_iff

theorem manual?_eq_some_iff : t.manual? n i = some r ↔
    Greatest ProcessRow.stopKey (t.OfDefinition n (ProcessRow.Done i)) r :=
  latest?_eq_some_iff ProcessRow.isManualIn_iff ht ProcessRow.stopsBefore_iff

end
end Tables

-- ---------------------------------------------------------------------------
-- The choice among rows of both modes
-- ---------------------------------------------------------------------------

namespace ProcessRow

variable {a b : ProcessRow}

theorem choiceKey_le_of_stopKey_le (hmode : a.runMode = b.runMode) (h : a.stopKey ≤ b.stopKey) :
    a.choiceKey ≤ b.choiceKey := by
  simp only [stopKey, orderKey, Prod.Lex.toLex_le_toLex] at h
  simp only [choiceKey, hmode, Prod.Lex.toLex_le_toLex, lt_irrefl, false_or, true_and]
  exact h

theorem choiceKey_le_of_lt (h : timeKey a.stop < timeKey b.stop) : a.choiceKey ≤ b.choiceKey := by
  rw [choiceKey, choiceKey, Prod.Lex.toLex_le_toLex]
  exact .inl h

theorem choiceKey_le_of_done (ha : a.Done i) (hb : b.Due i)
    (h : timeKey a.stop ≤ timeKey b.stop) : a.choiceKey ≤ b.choiceKey := by
  rcases h.lt_or_eq with hlt | heq
  · exact choiceKey_le_of_lt hlt
  · simp only [choiceKey, ha.1, hb.1, heq, Prod.Lex.toLex_le_toLex, lt_irrefl, false_or, true_and]
    exact .inl (by decide)

def ended (r : ProcessRow) : Option Int := r.stop.map Moment.wall

theorem endsBefore_iff : endsBefore a.ended b.ended = true ↔ timeKey a.stop < timeKey b.stop := by
  unfold ended timeKey
  cases a.stop <;> cases b.stop <;> simp [endsBefore]

theorem choiceKey_id (h : a.choiceKey = b.choiceKey) : a.id = b.id :=
  congrArg (fun key => (ofLex (ofLex key).2).2) h

end ProcessRow

namespace Tables

def finished? (t : Tables) (definitionId : Int) (i : Interval) : Option ProcessRow :=
  lastBy ProcessRow.ended (t.scheduled? definitionId i) (t.manual? definitionId i)

def standing? (t : Tables) (definitionId : Int) (i : Interval) : Option ProcessRow :=
  (t.running? definitionId i).or (t.finished? definitionId i)

theorem finished?_eq_none_iff : t.finished? n i = none ↔ ∀ r, ¬ t.Belongs n i r := by
  have hnone : t.finished? n i = none ↔ t.scheduled? n i = none ∧ t.manual? n i = none := by
    unfold finished? lastBy
    cases t.scheduled? n i with
    | none => cases t.manual? n i <;> simp
    | some s =>
      cases t.manual? n i with
      | none => simp
      | some m => simp only [reduceCtorEq, and_self, iff_false]; split <;> simp
  rw [hnone, scheduled?_eq_none_iff, manual?_eq_none_iff, ← forall_and]
  simp only [Belongs, ofDefinition_or, not_or]

theorem greatest_of_mode {p : ProcessRow → Prop} {mode : RunMode}
    (hp : ∀ r, p r → r.runMode = mode.name)
    (h : Greatest ProcessRow.stopKey (t.OfDefinition n p) r) :
    Greatest ProcessRow.choiceKey (t.OfDefinition n p) r := by
  refine h.of_le fun b hb hle => ProcessRow.choiceKey_le_of_stopKey_le ?_ hle
  rw [hp b hb.2.2, hp r h.holds.2.2]

section
variable (ht : KeptRows ProcessRow.id ProcessRow.stored t.processes)
include ht

theorem finished?_greatest (h : t.finished? n i = some r) :
    Greatest ProcessRow.choiceKey (t.Belongs n i) r := by
  rw [Belongs, Greatest.congr fun _ => ofDefinition_or]
  have hdue : ∀ s, t.scheduled? n i = some s →
      Greatest ProcessRow.choiceKey (t.OfDefinition n (ProcessRow.Due i)) s := fun s hs =>
    greatest_of_mode (fun _ h => h.1) ((scheduled?_eq_some_iff ht).mp hs)
  have hdone : ∀ m, t.manual? n i = some m →
      Greatest ProcessRow.choiceKey (t.OfDefinition n (ProcessRow.Done i)) m := fun m hm =>
    greatest_of_mode (fun _ h => h.1) ((manual?_eq_some_iff ht).mp hm)
  unfold finished? at h
  -- The rows of the mode that is not chosen are bounded by the greatest of that mode.
  cases hs : t.scheduled? n i with
  | none =>
    have hnone := scheduled?_eq_none_iff.mp hs
    cases hm : t.manual? n i with
    | none =>
      rw [hs, hm] at h
      cases h
    | some m =>
      rw [hs, hm] at h
      cases h
      rw [Greatest.congr fun _ => or_comm]
      exact (hdone r hm).or fun b hb => absurd hb (hnone b)
  | some s =>
    cases hm : t.manual? n i with
    | none =>
      rw [hs, hm] at h
      cases h
      exact (hdue r hs).or fun b hb => absurd hb (manual?_eq_none_iff.mp hm b)
    | some m =>
      rw [hs, hm, lastBy] at h
      split at h
      next hbefore =>
        cases h
        have hlt := ProcessRow.endsBefore_iff.mp hbefore
        rw [Greatest.congr fun _ => or_comm]
        refine (hdone r hm).or fun b hb => ?_
        exact ((hdue s hs).le b hb).trans (ProcessRow.choiceKey_le_of_lt hlt)
      next hbefore =>
        cases h
        have hle := not_lt.mp (mt ProcessRow.endsBefore_iff.mpr hbefore)
        refine (hdue r hs).or fun b hb => ((hdone m hm).le b hb).trans ?_
        exact ProcessRow.choiceKey_le_of_done (hdone m hm).holds.2.2 (hdue r hs).holds.2.2 hle

theorem finished?_eq_some_iff :
    t.finished? n i = some r ↔ Greatest ProcessRow.choiceKey (t.Belongs n i) r := by
  refine Greatest.found_iff ?_ (fun _ => finished?_greatest ht) finished?_eq_none_iff.mp
  intro a b ha hb hkey
  exact ht.eq_of_id ha.1 hb.1 (ProcessRow.choiceKey_id hkey)

/-- The row that is found is the one that stands for the interval. -/
theorem standing?_eq_some_iff : t.standing? n i = some r ↔ t.Stands n i r := by
  rw [standing?, Option.or_eq_some_iff, running?_eq_some_iff ht, running?_eq_none_iff,
    finished?_eq_some_iff ht]
  rfl

theorem standing?_perm {t' : Tables} (h : t'.processes.Perm t.processes) :
    t'.standing? n i = t.standing? n i := by
  refine Option.ext fun r => ?_
  rw [standing?_eq_some_iff ht, standing?_eq_some_iff (ht.perm h)]
  simp only [Stands, UnderWay, Belongs, ofDefinition_perm h]

end

theorem Stands.mem (h : t.Stands n i r) : r ∈ t.processes :=
  h.elim (fun hunderWay => hunderWay.holds.1) fun hbelongs => hbelongs.2.holds.1

theorem standing?_eq_none_iff :
    t.standing? n i = none ↔ (∀ r, ¬ t.UnderWay n i r) ∧ ∀ r, ¬ t.Belongs n i r := by
  rw [standing?, Option.or_eq_none_iff, running?_eq_none_iff, finished?_eq_none_iff]

end Tables
end DependencyGate.History
