import DependencyGate.Proofs.Evaluation
import DependencyGate.Proofs.History.Choice
import DependencyGate.Rehearsal

/-!
# Selection from a database

A database whose rows name known states and run modes answers from fixed records, so that
selecting from it returns the record of the row that stands for the interval
(`selectExecution_is_greatest`).
-/

namespace DependencyGate.History

open Json (Value)
open Rehearsal (Stage)
open Time (Moment Interval)

-- ---------------------------------------------------------------------------
-- Rows as records
-- ---------------------------------------------------------------------------

theorem ofName?_status_iff {name : String} {s : Status} :
    Status.ofName? name = some s ↔ name = s.name := by
  constructor
  · intro h
    have hfound := List.find?_some (p := fun s : Status => s.name == name) h
    exact (beq_iff_eq.mp hfound).symm
  · rintro rfl
    cases s <;> decide

theorem ofName?_runMode_iff {name : String} {m : RunMode} :
    RunMode.ofName? name = some m ↔ name = m.name := by
  constructor
  · intro h
    unfold RunMode.ofName? at h
    split at h
    next hname => cases h; exact hname
    next =>
      split at h
      next hname => cases h; exact hname
      next => cases h
  · rintro rfl
    cases m <;> decide

theorem readStatus_ok : readStatus name = .ok s ↔ name = s.name := by
  rw [← ofName?_status_iff, readStatus]
  cases Status.ofName? name <;> simp

theorem readRunMode_ok : readRunMode name = .ok m ↔ name = m.name := by
  rw [← ofName?_runMode_iff, readRunMode]
  cases RunMode.ofName? name <;> simp

namespace ProcessRow

structure Legible (r : ProcessRow) : Prop where
  state : ∃ s : Status, r.state = s.name
  runMode : ∃ m : RunMode, r.runMode = m.name

theorem toRecord_ok {r : ProcessRow} : r.toRecord = .ok e ↔
    r.state = e.status.name ∧ r.runMode = e.runMode.name ∧
      e = ⟨r.id, r.definitionId, e.status, e.runMode, r.start, r.stop, r.schedule, r.name,
        short_of_fits r.id_fits⟩ := by
  simp only [toRecord, bind_ok, readStatus_ok, readRunMode_ok, pure_ok]
  constructor
  · rintro ⟨s, hs, m, hm, rfl⟩
    exact ⟨hs, hm, rfl⟩
  · rintro ⟨hs, hm, he⟩
    exact ⟨_, hs, _, hm, he.symm⟩

theorem Legible.toRecord {r : ProcessRow} (h : r.Legible) : ∃ e, r.toRecord = .ok e := by
  obtain ⟨⟨s, hs⟩, m, hm⟩ := h
  exact ⟨⟨r.id, r.definitionId, s, m, r.start, r.stop, r.schedule, r.name, short_of_fits r.id_fits⟩,
    toRecord_ok.mpr ⟨hs, hm, rfl⟩⟩

def record? (r : ProcessRow) : Option Execution := r.toRecord.toOption

theorem record?_eq_some_iff {r : ProcessRow} : r.record? = some e ↔ r.toRecord = .ok e := by
  unfold record?
  cases r.toRecord <;> simp [Except.toOption]

theorem stop_of_record? {r : ProcessRow} (h : r.record? = some e) : e.stop = r.stop := by
  obtain ⟨-, -, he⟩ := toRecord_ok.mp (record?_eq_some_iff.mp h)
  exact congrArg Execution.stop he

theorem ended_of_record? {r : ProcessRow} (hbare : r.stored = r) (h : r.record? = some e) :
    e.ended = r.ended := by
  rw [Execution.ended, ended, stop_of_record? h]
  cases hm : r.stop with
  | none => rfl
  | some m =>
    rw [Option.map_some, Option.map_some, Moment.instant, stop_bare hbare hm, Option.getD_none,
      Int.sub_zero]

end ProcessRow

-- ---------------------------------------------------------------------------
-- A database as records
-- ---------------------------------------------------------------------------

def Tables.records (t : Tables) (definitionId : Int) : Records where
  running _ i := (t.running? definitionId i).bind ProcessRow.record?
  scheduled _ i := (t.scheduled? definitionId i).bind ProcessRow.record?
  manual _ i := (t.manual? definitionId i).bind ProcessRow.record?
  tasks p := (t.tasksOf p).filterMap fun r => r.toRecord.toOption

def Tables.OnStage (t : Tables) (s : Stage) : Prop := s.history = .kept (some t)

theorem Tables.OnStage.history {t : Tables} {s : Stage} (h : t.OnStage s) :
    s.history = .kept (some t) := h

section
variable {t : Tables} {find : Tables → Int → Option ProcessRow} {id : Value}
  (hid : ColumnKey.ofValue id = .number n) (hn : fits n)
include hid hn

theorem replyRow_none (h : find t n = none) :
    replyRow lookup (some t) id find = ⟨.ok none, []⟩ := by
  simp [replyRow, hid, hn, h]

theorem replyRow_found (h : find t n = some r) :
    replyRow lookup (some t) id find = replyWith lookup (r.toRecord.map some) := by
  simp [replyRow, hid, hn, h]

theorem replyRow_outcome (hlegible : ∀ r, find t n = some r → r.Legible) :
    (replyRow lookup (some t) id find).outcome = .ok ((find t n).bind ProcessRow.record?) := by
  cases hr : find t n with
  | none => rw [replyRow_none hid hn hr, Option.bind_none]
  | some r =>
    obtain ⟨e, he⟩ := (hlegible r hr).toRecord
    rw [replyRow_found hid hn hr, he, Option.bind_some, ProcessRow.record?_eq_some_iff.mpr he]
    rfl

end

section
variable {t : Tables} {n : Int} {id : Value}
  (ht : KeptRows ProcessRow.id ProcessRow.stored t.processes)
  (hlegible : ∀ r ∈ t.processes, r.Legible)
include ht hlegible

theorem Tables.answer_records (hid : ColumnKey.ofValue id = .number n) (hn : fits n) :
    (t.records n).Answer t.OnStage Stage.collaborators id where
  running i s hs := by
    simp only [Stage.collaborators, Stage.running, hs.history]
    exact ⟨replyRow_outcome hid hn fun r hr =>
      hlegible r ((running?_eq_some_iff ht).mp hr).holds.1, hs⟩
  scheduled i s hs := by
    simp only [Stage.collaborators, Stage.scheduled, hs.history]
    exact ⟨replyRow_outcome hid hn fun r hr =>
      hlegible r ((scheduled?_eq_some_iff ht).mp hr).holds.1, hs⟩
  manual i s hs := by
    simp only [Stage.collaborators, Stage.manual, hs.history]
    exact ⟨replyRow_outcome hid hn fun r hr =>
      hlegible r ((manual?_eq_some_iff ht).mp hr).holds.1, hs⟩

omit hlegible in
theorem Tables.records_comparable : (t.records n).Comparable id := by
  intro i s m hs hm a b ha hb
  obtain ⟨p, hp, hps⟩ := Option.bind_eq_some_iff.mp hs
  obtain ⟨q, hq, hqm⟩ := Option.bind_eq_some_iff.mp hm
  have hpbare := ht.bare p ((scheduled?_eq_some_iff ht).mp hp).holds.1
  have hqbare := ht.bare q ((manual?_eq_some_iff ht).mp hq).holds.1
  rw [Moment.SameKind,
    ProcessRow.stop_bare hpbare ((ProcessRow.stop_of_record? hps).symm.trans ha),
    ProcessRow.stop_bare hqbare ((ProcessRow.stop_of_record? hqm).symm.trans hb)]

theorem Tables.record_of_mem (hr : r ∈ t.processes) :
    ∃ e, r.record? = some e ∧ e.ended = r.ended := by
  obtain ⟨e, he⟩ := (hlegible r hr).toRecord
  have hrecord := ProcessRow.record?_eq_some_iff.mpr he
  exact ⟨e, hrecord, ProcessRow.ended_of_record? (ht.bare r hr) hrecord⟩

theorem Tables.records_standing? :
    (t.records n).standing? id i = (t.standing? n i).bind ProcessRow.record? := by
  have hlast : lastEnded ((t.scheduled? n i).bind ProcessRow.record?)
      ((t.manual? n i).bind ProcessRow.record?) = (t.finished? n i).bind ProcessRow.record? := by
    refine lastBy_bind (fun r hr => ?_) fun r hr => ?_
    · exact record_of_mem ht hlegible ((scheduled?_eq_some_iff ht).mp hr).holds.1
    · exact record_of_mem ht hlegible ((manual?_eq_some_iff ht).mp hr).holds.1
  unfold Records.standing? Tables.standing?
  simp only [records, hlast]
  cases hr : t.running? n i with
  | none => rfl
  | some r =>
    obtain ⟨e, he, -⟩ := record_of_mem ht hlegible ((running?_eq_some_iff ht).mp hr).holds.1
    simp only [Option.bind_some, he, Option.some_or]

-- ---------------------------------------------------------------------------
-- The execution that is selected
-- ---------------------------------------------------------------------------

/-- A selection returns the record of the row that is found, and nothing without one. -/
theorem selectExecution_on_tables (hid : ColumnKey.ofValue id = .number n) (hn : fits n)
    {w : World Stage} (hw : t.OnStage w.state) (i : Interval) :
    ∃ w', selectExecution Stage.collaborators id i w =
      (.ok ((t.standing? n i).bind ProcessRow.record?), w') := by
  obtain ⟨w', hrun, -, -⟩ := selectExecution_returns (Tables.answer_records ht hlegible hid hn)
    (Tables.records_comparable ht) i w hw
  rw [Tables.records_standing? ht hlegible] at hrun
  exact ⟨w', hrun⟩

end

/-- On tables with known states and run modes a selection returns the record of the row that
stands for the interval, and nothing only when no row is under way and none belongs to it.
It returns the same whatever order the rows are listed in. -/
theorem selectExecution_is_greatest {t : Tables} {n : Int} {w : World Stage}
    (ht : KeptRows ProcessRow.id ProcessRow.stored t.processes)
    (hlegible : ∀ r ∈ t.processes, r.Legible) (hn : fits n) (hw : t.OnStage w.state)
    (i : Interval) :
    ∃ found w',
      selectExecution Stage.collaborators (.int n (short_of_fits hn)) i w = (.ok found, w') ∧
      (∀ e, found = some e ↔ ∃ r, t.Stands n i r ∧ r.toRecord = .ok e) ∧
      (found = none ↔ (∀ r, ¬ t.UnderWay n i r) ∧ ∀ r, ¬ t.Belongs n i r) ∧
      ∀ (t' : Tables) (v : World Stage), t'.processes.Perm t.processes → t'.OnStage v.state →
        ∃ v', selectExecution Stage.collaborators (.int n (short_of_fits hn)) i v =
          (.ok found, v') := by
  have hid : ColumnKey.ofValue (.int n (short_of_fits hn)) = .number n := rfl
  obtain ⟨w', hrun⟩ := selectExecution_on_tables ht hlegible hid hn hw i
  refine ⟨_, w', hrun, fun e => ?_, ?_, ?_⟩
  · simp only [Option.bind_eq_some_iff, Tables.standing?_eq_some_iff ht,
      ProcessRow.record?_eq_some_iff]
  · rw [← Tables.standing?_eq_none_iff]
    constructor
    · intro hnone
      refine Option.eq_none_iff_forall_not_mem.mpr fun r hr => ?_
      obtain ⟨e, he, -⟩ := Tables.record_of_mem ht hlegible
        ((Tables.standing?_eq_some_iff ht).mp hr).mem
      rw [Option.mem_def.mp hr, Option.bind_some, he] at hnone
      cases hnone
    · intro hnone
      rw [hnone, Option.bind_none]
  · intro t' v hperm hv
    rw [← Tables.standing?_perm ht hperm]
    exact selectExecution_on_tables (ht.perm hperm) (fun r hr => hlegible r (hperm.subset hr))
      hid hn hv i

/-- A manual and a scheduled row of one day that ended together, after another manual one; a
row under way started on the day before. -/
def tiedTables : Tables where
  processes :=
    [{ id := 9, definitionId := 7, state := "failure", runMode := "manual",
       stop := some secondDay.stop },
     { id := 4, definitionId := 7, state := "success", runMode := "scheduled",
       schedule := some secondDay.start, stop := some secondDay.stop },
     { id := 10, definitionId := 7, state := "stop", runMode := "manual",
       stop := some secondDay.start },
     { id := 11, definitionId := 7, state := "running_execution", runMode := "scheduled",
       schedule := some firstDay.start, start := some firstDay.stop }]

/-- Of a tie the scheduled row is selected, although the manual one has the greater id. -/
theorem selectExecution_of_tie :
    ∃ w', selectExecution Stage.collaborators (.int 7) secondDay
        { state := { history := .kept (some tiedTables) } } =
      (.ok (some { id := 4, definitionId := 7, status := .success, runMode := .scheduled,
                   stop := some secondDay.stop, schedule := some secondDay.start }), w') := by
  have ht : KeptRows ProcessRow.id ProcessRow.stored tiedTables.processes :=
    ⟨by decide, by decide⟩
  have hlegible : ∀ r ∈ tiedTables.processes, r.Legible := by
    simp only [tiedTables, List.forall_mem_cons]
    refine ⟨⟨⟨.failure, rfl⟩, .manual, rfl⟩, ⟨⟨.success, rfl⟩, .scheduled, rfl⟩,
      ⟨⟨.stop, rfl⟩, .manual, rfl⟩, ⟨⟨.runningExecution, rfl⟩, .scheduled, rfl⟩,
      List.forall_mem_nil _⟩
  have hstands : tiedTables.Stands 7 secondDay _ :=
    (Tables.standing?_eq_some_iff ht).mp (by decide +kernel : _ = tiedTables.processes[1]?)
  obtain ⟨found, w', hrun, hfound, -, -⟩ := selectExecution_is_greatest
    (n := 7) (w := { state := { history := .kept (some tiedTables) } }) ht hlegible (by decide) rfl
    secondDay
  rw [(hfound _).mpr ⟨_, hstands, rfl⟩] at hrun
  exact ⟨w', hrun⟩

end DependencyGate.History
