import DependencyGate.Proofs.History.Choice
import DependencyGate.Proofs.History.Listing
import DependencyGate.Proofs.Indifference
import DependencyGate.Rehearsal

/-!
# Rows that do not matter

An evaluation depends on few rows: those of the item's definition that have a time in one of the
item's intervals, and the task rows of the executions that are selected. Tables that agree on these
give one verdict, or one fault, whatever else stands in them (`evaluate_unrelated`). Rows that
cannot be read are no exception.
-/

namespace DependencyGate.History

open Json (Value)
open Rehearsal (Stage)
open Time (Moment Interval Zone)

-- ---------------------------------------------------------------------------
-- Lookups
-- ---------------------------------------------------------------------------

namespace ProcessRow

/-- One of the times of a row lies in the interval. -/
def Touches (i : Interval) (r : ProcessRow) : Prop :=
  Within i r.schedule ∨ Within i r.start ∨ Within i r.stop

theorem UnderWay.touches {r : ProcessRow} (h : r.UnderWay i) : r.Touches i :=
  h.2.elim .inl fun hstart => .inr (.inl hstart)

theorem Due.touches {r : ProcessRow} (h : r.Due i) : r.Touches i := .inl h.2

theorem Done.touches {r : ProcessRow} (h : r.Done i) : r.Touches i := .inr (.inr h.2)

end ProcessRow

section
variable {t t' : Tables} {n : Int} {i : Interval}

theorem Tables.latest?_agree {p : ProcessRow → Prop} {matching : ProcessRow → Bool}
    (hmatching : ∀ r, matching r = true ↔ p r)
    (ht : KeptRows ProcessRow.id ProcessRow.stored t.processes)
    (ht' : KeptRows ProcessRow.id ProcessRow.stored t'.processes)
    {before : ProcessRow → ProcessRow → Bool} {time : ProcessRow → Option Moment}
    (hbefore : ∀ a b, before a b = true ↔ orderKey (time a) a.id < orderKey (time b) b.id)
    (h : ∀ r, r.definitionId = n → p r → (r ∈ t.processes ↔ r ∈ t'.processes)) :
    t.latest? n matching before = t'.latest? n matching before := by
  have hof : ∀ r, t.OfDefinition n p r ↔ t'.OfDefinition n p r := fun r =>
    and_congr_left fun ⟨hn, hp⟩ => h r hn hp
  refine Option.ext fun r => ?_
  rw [latest?_eq_some_iff hmatching ht hbefore, latest?_eq_some_iff hmatching ht' hbefore]
  exact Greatest.congr hof

variable (ht : t.Kept) (ht' : t'.Kept)
  (h : ∀ r, r.definitionId = n → r.Touches i → (r ∈ t.processes ↔ r ∈ t'.processes))
include ht ht' h

theorem Tables.running?_agree : t.running? n i = t'.running? n i :=
  latest?_agree ProcessRow.isRunningIn_iff ht.processes ht'.processes ProcessRow.startsBefore_iff
    fun r hn hr => h r hn hr.touches

theorem Tables.scheduled?_agree : t.scheduled? n i = t'.scheduled? n i :=
  latest?_agree ProcessRow.isScheduledIn_iff ht.processes ht'.processes ProcessRow.stopsBefore_iff
    fun r hn hr => h r hn hr.touches

theorem Tables.manual?_agree : t.manual? n i = t'.manual? n i :=
  latest?_agree ProcessRow.isManualIn_iff ht.processes ht'.processes ProcessRow.stopsBefore_iff
    fun r hn hr => h r hn hr.touches

end

theorem replyRow_congr {t t' : Tables} {find : Tables → Int → Option ProcessRow} {id : Value}
    (h : ∀ n, ColumnKey.ofValue id = .number n → find t n = find t' n) (lookup : Lookup) :
    replyRow lookup (some t) id find = replyRow lookup (some t') id find := by
  unfold replyRow
  cases hid : ColumnKey.ofValue id with
  | unfit => rfl
  | nothing => rfl
  | number n => simp only [h n hid]

-- ---------------------------------------------------------------------------
-- Evaluations
-- ---------------------------------------------------------------------------

def stageOf (zone : Option Zone) (t : Tables) : Stage where
  calendar := .zoned zone
  history := .kept (some t)

/-- The tables agree on what an item reads at a reference moment: on the rows of its definition that
touch one of its intervals, and on the task rows of the executions that are selected for these. -/
structure Agree (zone : Option Zone) (item : Item) (reference : Moment) (t t' : Tables) : Prop where
  processes : resolve zone reference item.date = .ok intervals → ∀ i ∈ intervals,
    ∀ r : ProcessRow, ColumnKey.ofValue item.definitionId = .number r.definitionId → r.Touches i →
      (r ∈ t.processes ↔ r ∈ t'.processes)
  tasks : resolve zone reference item.date = .ok intervals → ∀ i ∈ intervals, ∀ e,
    (selectExecution Stage.collaborators item.definitionId i { state := stageOf zone t }).1 =
      .ok (some e) → ∀ r : TaskRow, r.processId = e.id → (r ∈ t.tasks ↔ r ∈ t'.tasks)

def StagesOf (zone : Option Zone) (t t' : Tables) (s s' : Stage) : Prop :=
  s = stageOf zone t ∧ s' = stageOf zone t'

section
variable {zone : Option Zone} {t t' : Tables} {i : Interval} (ht : t.Kept) (ht' : t'.Kept)

theorem resolve_on_stage (reference : Moment) (date : Value) :
    Stage.collaborators.resolve reference date (stageOf zone t) =
      (⟨(resolve zone reference date).mapError .foreign, []⟩, stageOf zone t) := by
  simp only [Stage.collaborators, Stage.resolve, stageOf]
  cases resolve zone reference date <;> rfl

theorem ask_resolve_stages (item : Item) (reference : Moment) :
    Indifferent (Indifferent.inStates (StagesOf zone t t'))
      (Engine.ask (.resolve reference item.date)
        (Stage.collaborators.resolve reference item.date)) := by
  refine Indifferent.ask _ ?_
  rintro s s' ⟨rfl, rfl⟩
  rw [resolve_on_stage, resolve_on_stage]
  exact ⟨rfl, rfl, rfl⟩

include ht ht' in
theorem selectExecution_stages {id : Value}
    (h : ∀ r : ProcessRow, ColumnKey.ofValue id = .number r.definitionId → r.Touches i →
      (r ∈ t.processes ↔ r ∈ t'.processes)) :
    Indifferent (Indifferent.inStates (StagesOf zone t t'))
      (selectExecution Stage.collaborators id i) := by
  have hrows : ∀ n, ColumnKey.ofValue id = .number n → ∀ r : ProcessRow, r.definitionId = n →
      r.Touches i → (r ∈ t.processes ↔ r ∈ t'.processes) := by
    rintro n hid r rfl
    exact h r hid
  refine Indifferent.selectExecution (Indifferent.ask _ ?_) (Indifferent.ask _ ?_)
    (Indifferent.ask _ ?_)
  · rintro s s' ⟨rfl, rfl⟩
    exact ⟨congrArg Reply.outcome (replyRow_congr (fun n hid =>
      Tables.running?_agree ht ht' (hrows n hid)) .running), rfl, rfl⟩
  · rintro s s' ⟨rfl, rfl⟩
    exact ⟨congrArg Reply.outcome (replyRow_congr (fun n hid =>
      Tables.scheduled?_agree ht ht' (hrows n hid)) .scheduled), rfl, rfl⟩
  · rintro s s' ⟨rfl, rfl⟩
    exact ⟨congrArg Reply.outcome (replyRow_congr (fun n hid =>
      Tables.manual?_agree ht ht' (hrows n hid)) .manual), rfl, rfl⟩

include ht ht' in
theorem ask_tasks_stages {p : Int} {short : Number.Short p}
    (h : ∀ r : TaskRow, r.processId = p → (r ∈ t.tasks ↔ r ∈ t'.tasks)) :
    Indifferent (Indifferent.inStates (StagesOf zone t t'))
      (Engine.ask (.tasks p short) (Stage.collaborators.tasks p short)) := by
  refine Indifferent.ask _ ?_
  rintro s s' ⟨rfl, rfl⟩
  have hlisted : t.tasksOf p = t'.tasksOf p := Tables.tasksOf_eq ht.tasks ht'.tasks fun r =>
    and_congr_left fun hr => h r hr.1
  refine ⟨?_, rfl, rfl⟩
  show (Database.listTasks (some t) p).outcome = (Database.listTasks (some t') p).outcome
  simp only [Database.listTasks, hlisted]

end

/-- Tables that agree on what an item reads give one verdict on it, or one fault, and the same
executions are selected on the way. -/
theorem evaluate_unrelated {zone : Option Zone} {item : Item} {reference : Moment} {t t' : Tables}
    (ht : t.Kept) (ht' : t'.Kept) (h : Agree zone item reference t t') {w w' : World Stage}
    (hw : w.state = stageOf zone t) (hw' : w'.state = stageOf zone t') :
    (evaluate Stage.collaborators item reference w).1 =
        (evaluate Stage.collaborators item reference w').1 ∧
      ∀ intervals, resolve zone reference item.date = .ok intervals → ∀ i ∈ intervals,
        (selectExecution Stage.collaborators item.definitionId i w).1 =
          (selectExecution Stage.collaborators item.definitionId i w').1 := by
  refine ⟨?_, fun intervals hresolve i hi =>
    (selectExecution_stages ht ht' (h.processes hresolve i hi) w w' ⟨hw, hw'⟩).1⟩
  refine (Indifferent.bind_of_given ((ask_resolve_stages item reference).guarded _ _) ?_ w w'
    ⟨hw, hw'⟩).1
  rintro intervals v v' ⟨hv, -⟩ hgiven
  have hresolve : resolve zone reference item.date = .ok intervals := by
    rw [Engine.guarded, Engine.ask, hv, resolve_on_stage] at hgiven
    cases hresolve : resolve zone reference item.date with
    | ok is =>
      rw [hresolve] at hgiven
      cases hgiven
      rfl
    | error f =>
      rw [hresolve] at hgiven
      cases hgiven
  refine Indifferent.verdictAfter item .failed fun i hi => ?_
  refine Indifferent.intervalVerdict item
    (selectExecution_stages ht ht' (h.processes hresolve i hi)) ?_
  rintro e u u' ⟨hu, -⟩ hselected
  -- What is selected does not depend on what was asked and noted before.
  have hfresh : (selectExecution Stage.collaborators item.definitionId i
      { state := stageOf zone t }).1 = .ok (some e) :=
    (selectExecution_stages ht ht (fun _ _ _ => Iff.rfl) _ _ ⟨rfl, hu⟩).1.trans hselected
  exact ask_tasks_stages ht ht' (h.tasks hresolve i hi e hfresh)

-- ---------------------------------------------------------------------------
-- Rows that cannot be read
-- ---------------------------------------------------------------------------

def plainTables : Tables where
  processes := [{ id := 1, definitionId := 7, state := "success", runMode := "scheduled",
                  schedule := some firstDay.start, stop := some firstDay.stop }]
  tasks := [{ id := 1, processId := 1, name := "load", state := "success", flag := true }]

/-- The same among rows that cannot be read: one of another definition on that day, one of the
definition on the day after, and a task of the former. -/
def clutteredTables : Tables where
  processes :=
    { id := 2, definitionId := 8, state := "lost", runMode := "none",
      schedule := some firstDay.start } ::
    { id := 3, definitionId := 7, state := "lost", runMode := "none",
      schedule := some secondDay.start, start := some secondDay.start,
      stop := some secondDay.stop } :: plainTables.processes
  tasks := { id := 2, processId := 2, name := "load", state := "lost", flag := true } ::
    plainTables.tasks

def loadToday : Item := { loadItem with date := .str "today" }

theorem tables_agree : Agree none loadToday default plainTables clutteredTables := by
  have hday : resolve none (default : Moment) loadToday.date = .ok [firstDay] := by decide +kernel
  constructor
  · rw [hday]
    rintro _ ⟨⟩ i hi r hid htouches
    obtain rfl := List.mem_singleton.mp hi
    refine ⟨fun h => .tail _ (.tail _ h), ?_⟩
    rintro (_ | ⟨_, _ | ⟨_, h⟩⟩)
    · cases ColumnKey.number.inj hid
    · simp only [ProcessRow.Touches, ← inWindow_iff] at htouches
      exact absurd htouches (by decide)
    · exact h
  · rw [hday]
    rintro _ ⟨⟩ i hi e he r hprocess
    obtain rfl := List.mem_singleton.mp hi
    refine ⟨.tail _, ?_⟩
    rintro (_ | ⟨_, h⟩)
    · cases he
      cases hprocess
    · exact h

/-- The task has succeeded, as it has without the rows that cannot be read. -/
theorem evaluate_among_illegible_rows :
    (evaluate Stage.collaborators loadToday default { state := stageOf none clutteredTables }).1 =
      .ok .success := by
  have hplain : plainTables.Kept := ⟨⟨by decide, by decide⟩, ⟨by decide, by decide⟩⟩
  have hcluttered : clutteredTables.Kept :=
    ⟨⟨by decide, by decide⟩, ⟨by decide, by decide⟩⟩
  have hsame : (evaluate Stage.collaborators loadToday default
        { state := stageOf none plainTables }).1 =
      (evaluate Stage.collaborators loadToday default
        { state := stageOf none clutteredTables }).1 :=
    (evaluate_unrelated hplain hcluttered tables_agree rfl rfl).1
  rw [← hsame]
  decide +kernel

end DependencyGate.History
