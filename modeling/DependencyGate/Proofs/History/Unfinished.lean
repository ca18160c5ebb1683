import DependencyGate.Proofs.History.Selected

/-!
# Unfinished runs

An item on a whole process takes its verdict from the row that stands for the interval, and
no row under way is a success. The verdict is a success only when none is under way and the
row chosen among those that belong to the interval succeeded
(`intervalVerdict_over_unfinished`).

A row that waits for a thread or for its own dependencies counts as running, but it is not
under way: a success that ended in the same interval is chosen over it.
-/

namespace DependencyGate.History

open Json (Value)
open Rehearsal (Stage)
open Time (Moment Interval)

/-- In a state that counts as running, and due or started in the interval. -/
def ProcessRow.Unfinished (i : Interval) (r : ProcessRow) : Prop :=
  (∃ s : Status, r.state = s.name ∧ s.category = .runningLike) ∧
    (Within i r.schedule ∨ Within i r.start)

-- ---------------------------------------------------------------------------
-- Verdicts by state
-- ---------------------------------------------------------------------------

theorem name_injective {s s' : Status} (h : s.name = s'.name) : s = s' :=
  Option.some.inj ((ofName?_status_iff.mpr rfl).symm.trans (ofName?_status_iff.mpr h))

theorem verdict_eq_success_iff {s : Status} : s.verdict = .success ↔ s = .success := by
  cases s <;> decide

theorem success_not_inFlight : Status.success ∉ Status.inFlight := by decide

-- ---------------------------------------------------------------------------
-- The verdict on an interval
-- ---------------------------------------------------------------------------

section
variable {t : Tables} {n : Int} {item : Item} {w : World Stage} {i : Interval}
  (ht : KeptRows ProcessRow.id ProcessRow.stored t.processes)
  (hlegible : ∀ r ∈ t.processes, r.Legible)
  (hitem : ColumnKey.ofValue item.definitionId = .number n) (hn : fits n)
  (hall : item.target = .str wholeProcess) (hw : t.OnStage w.state)
include ht hlegible hitem hn hall hw

theorem intervalVerdict_of_standing :
    ∃ v w', intervalVerdict Stage.collaborators item i w = (.ok v, w') ∧
      (∀ r, t.standing? n i = some r → ∃ s : Status, r.state = s.name ∧ v = s.verdict) ∧
      (t.standing? n i = none → v = .failed) := by
  obtain ⟨w₁, hselect⟩ := selectExecution_on_tables ht hlegible hitem hn hw i
  cases hr : t.standing? n i with
  | none =>
    rw [hr, Option.bind_none] at hselect
    refine ⟨.failed, _, run_bind_of_ok hselect, ?_, fun _ => rfl⟩
    rintro r ⟨⟩
  | some r =>
    obtain ⟨e, he, -⟩ := Tables.record_of_mem ht hlegible
      ((Tables.standing?_eq_some_iff ht).mp hr).mem
    rw [hr, Option.bind_some, he] at hselect
    have hstate := (ProcessRow.toRecord_ok.mp (ProcessRow.record?_eq_some_iff.mp he)).1
    refine ⟨e.status.verdict, w₁, (run_bind_of_ok hselect).trans ?_, ?_, ?_⟩
    · simp only [executionVerdict, Item.dependsOnAll, hall, decide_true, if_true]
      rfl
    · rintro r' h
      cases h
      exact ⟨e.status, hstate, rfl⟩
    · rintro ⟨⟩

theorem intervalVerdict_success_iff :
    ∃ v w', intervalVerdict Stage.collaborators item i w = (.ok v, w') ∧
      (v = .success ↔ (∀ r, ¬ t.UnderWay n i r) ∧
        ∃ r, Greatest ProcessRow.choiceKey (t.Belongs n i) r ∧ r.state = Status.success.name) := by
  obtain ⟨v, w', hrun, hsome, hnone⟩ :=
    intervalVerdict_of_standing ht hlegible hitem hn hall hw (i := i)
  refine ⟨v, w', hrun, ?_, ?_⟩
  · intro hv
    cases hr : t.standing? n i with
    | none =>
      rw [hnone hr] at hv
      cases hv
    | some r =>
      obtain ⟨s, hs, rfl⟩ := hsome r hr
      rw [verdict_eq_success_iff] at hv
      subst hv
      rcases (Tables.standing?_eq_some_iff ht).mp hr with hunderWay | ⟨hidle, hchosen⟩
      · obtain ⟨s, hmem, hs'⟩ := hunderWay.holds.2.2.1
        rw [name_injective (hs'.symm.trans hs)] at hmem
        exact absurd hmem success_not_inFlight
      · exact ⟨hidle, r, hchosen, hs⟩
  · rintro ⟨hidle, r, hchosen, hs⟩
    obtain ⟨s, hs', rfl⟩ := hsome r ((Tables.standing?_eq_some_iff ht).mpr (.inr ⟨hidle, hchosen⟩))
    rw [verdict_eq_success_iff]
    exact name_injective (hs'.symm.trans hs)

end

/-- Over an unfinished row the verdict on a whole process is no success if the row is under
way, and otherwise it is one only when no row is under way and the chosen one of those that
belong to the interval succeeded. -/
theorem intervalVerdict_over_unfinished {t : Tables} {n : Int} {item : Item} {w : World Stage}
    {i : Interval} (ht : t.Kept) (hlegible : ∀ r ∈ t.processes, r.Legible)
    (hitem : ColumnKey.ofValue item.definitionId = .number n)
    (hall : item.target = .str wholeProcess) (hw : t.OnStage w.state)
    (hr : t.OfDefinition n (ProcessRow.Unfinished i) r) :
    ∃ v w', intervalVerdict Stage.collaborators item i w = (.ok v, w') ∧
      (∀ s ∈ Status.inFlight, r.state = s.name → v ≠ .success) ∧
      (v = .success ↔ (∀ r', ¬ t.UnderWay n i r') ∧
        ∃ r', Greatest ProcessRow.choiceKey (t.Belongs n i) r' ∧
          r'.state = Status.success.name) := by
  obtain ⟨hmem, hdefinition, -, hwithin⟩ := hr
  have hn : fits n := hdefinition ▸ r.definition_fits
  obtain ⟨v, w', hrun, hv⟩ :=
    intervalVerdict_success_iff ht.processes hlegible hitem hn hall hw (i := i)
  refine ⟨v, w', hrun, fun s hs hstate hsuccess => ?_, hv⟩
  exact (hv.mp hsuccess).1 r ⟨hmem, hdefinition, ⟨s, hs, hstate⟩, hwithin⟩

-- ---------------------------------------------------------------------------
-- A run that was started again
-- ---------------------------------------------------------------------------

def finishedRun : ProcessRow where
  id := 1
  definitionId := 7
  state := "success"
  runMode := "scheduled"
  schedule := some firstDay.start
  start := some firstDay.start
  stop := some firstDay.stop

def secondRun (s : Status) : ProcessRow where
  id := 2
  definitionId := 7
  state := s.name
  runMode := "scheduled"
  schedule := some firstDay.stop

def rerunTables (s : Status) : Tables := { processes := [finishedRun, secondRun s] }

def rerunItem : Item := ⟨.str "whole", .int 7, .str wholeProcess, .str "today"⟩

theorem rerunTables_kept (s : Status) : (rerunTables s).Kept where
  processes := by
    have hids : (rerunTables s).processes.map ProcessRow.id = [1, 2] := rfl
    refine ⟨hids ▸ by decide, ?_⟩
    simp only [rerunTables, List.forall_mem_cons]
    exact ⟨rfl, rfl, List.forall_mem_nil _⟩
  tasks := .nil

theorem rerunTables_legible (s : Status) : ∀ r ∈ (rerunTables s).processes, r.Legible := by
  simp only [rerunTables, List.forall_mem_cons]
  exact ⟨⟨⟨.success, rfl⟩, .scheduled, rfl⟩, ⟨⟨s, rfl⟩, .scheduled, rfl⟩, List.forall_mem_nil _⟩

theorem secondRun_unfinished {s : Status} (hs : s.category = .runningLike) :
    (rerunTables s).OfDefinition 7 (ProcessRow.Unfinished firstDay) (secondRun s) :=
  ⟨List.mem_cons_of_mem _ List.mem_cons_self, rfl, ⟨s, rfl, hs⟩,
    .inl ⟨_, rfl, by decide, by decide⟩⟩

/-- A second run that waits for a thread is unfinished, and yet the day succeeded. -/
theorem intervalVerdict_passes_over_queued_run :
    (rerunTables .waitingThread).Kept ∧
      (∀ r ∈ (rerunTables .waitingThread).processes, r.Legible) ∧
      (rerunTables .waitingThread).OfDefinition 7 (ProcessRow.Unfinished firstDay)
        (secondRun .waitingThread) ∧
      rerunItem.definitionId = .int 7 ∧ rerunItem.target = .str wholeProcess ∧
      ∃ w', intervalVerdict Stage.collaborators rerunItem firstDay
        { state := { history := .kept (some (rerunTables .waitingThread)) } } =
          (.ok .success, w') := by
  have hkept := rerunTables_kept .waitingThread
  have hlegible := rerunTables_legible .waitingThread
  refine ⟨hkept, hlegible, secondRun_unfinished rfl, rfl, rfl, ?_⟩
  obtain ⟨v, w', hrun, hv, -⟩ := intervalVerdict_of_standing
    (n := 7) (w := { state := { history := .kept (some (rerunTables .waitingThread)) } })
    (i := firstDay) hkept.processes hlegible (rfl : ColumnKey.ofValue rerunItem.definitionId = _)
    (by decide) rfl rfl
  obtain ⟨s, hs, rfl⟩ := hv finishedRun (by decide +kernel)
  rw [← name_injective (s := .success) hs] at hrun
  exact ⟨w', hrun⟩

/-- A second run that is submitted holds the gate. -/
theorem intervalVerdict_over_submitted_run :
    ∃ v w', intervalVerdict Stage.collaborators rerunItem firstDay
        { state := { history := .kept (some (rerunTables .submittedSuccess)) } } = (.ok v, w') ∧
      v ≠ .success := by
  obtain ⟨v, w', hrun, hheld, -⟩ := intervalVerdict_over_unfinished
    (n := 7) (w := { state := { history := .kept (some (rerunTables .submittedSuccess)) } })
    (i := firstDay) (rerunTables_kept _) (rerunTables_legible _)
    (rfl : ColumnKey.ofValue rerunItem.definitionId = _) rfl rfl (secondRun_unfinished rfl)
  exact ⟨v, w', hrun, hheld .submittedSuccess (by decide) rfl⟩

end DependencyGate.History
