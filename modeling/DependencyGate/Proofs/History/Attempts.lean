import DependencyGate.Proofs.History.Listing
import DependencyGate.Proofs.History.Unfinished
import DependencyGate.Proofs.Matching

/-!
# The latest attempt of a task

An item on one task takes its verdict from the row with the task's name that started last, among
the flagged rows of the selected process. While there is none the process itself decides
(`executionVerdict_of_latest_attempt`). One flagged row that cannot be read is a fault of the whole
listing, whatever its name; rows without the flag and those of other processes are not looked at.
-/

namespace DependencyGate

open Json (Value)
open Rehearsal (Stage)

namespace History

-- ---------------------------------------------------------------------------
-- Rows as records
-- ---------------------------------------------------------------------------

namespace TaskRow

def Legible (r : TaskRow) : Prop := ∃ s : Status, r.state = s.name

/-- A record with all columns of a row but its flag. -/
structure ReadsAs (r : TaskRow) (a : TaskExecution) : Prop where
  id : a.id = r.id
  processId : a.processId = r.processId
  name : a.name = r.name
  status : a.status.name = r.state
  start : a.start = r.start
  stop : a.stop = r.stop

variable {r : TaskRow}

theorem toRecord_ok : r.toRecord = .ok a ↔ r.ReadsAs a := by
  simp only [toRecord, bind_ok, readStatus_ok, pure_ok]
  constructor
  · rintro ⟨s, hs, rfl⟩
    exact ⟨rfl, rfl, rfl, hs.symm, rfl, rfl⟩
  · obtain ⟨id, processId, name, status, start, stop⟩ := a
    rintro ⟨rfl, rfl, rfl, hs, rfl, rfl⟩
    exact ⟨status, hs.symm, rfl⟩

theorem Legible.toRecord (h : r.Legible) : ∃ a, r.toRecord = .ok a := by
  obtain ⟨s, hs⟩ := h
  exact ⟨⟨r.id, r.processId, r.name, s, r.start, r.stop⟩,
    toRecord_ok.mpr ⟨rfl, rfl, rfl, hs.symm, rfl, rfl⟩⟩

theorem toRecord_error (h : r.toRecord = .error f) :
    ¬ r.Legible ∧ f = .notMember (.str r.state) .status := by
  constructor
  · intro hlegible
    obtain ⟨a, ha⟩ := hlegible.toRecord
    rw [ha] at h
    cases h
  · rcases bind_error.mp h with hstatus | ⟨s, -, hrecord⟩
    · unfold readStatus at hstatus
      split at hstatus
      · cases hstatus
      · cases hstatus
        rfl
    · cases hrecord

end TaskRow

-- ---------------------------------------------------------------------------
-- The order of the listing
-- ---------------------------------------------------------------------------

theorem find?_greatest {α κ : Type} [Preorder κ] {key : α → κ} {l : List α} {p : α → Bool}
    {a : α} (hl : l.Pairwise fun a b => key b < key a) (h : l.find? p = some a) :
    Greatest key (fun b => b ∈ l ∧ p b = true) a := by
  induction l with
  | nil => cases h
  | cons b rest ih =>
    obtain ⟨hb, hrest⟩ := List.pairwise_cons.mp hl
    by_cases hp : p b = true
    · rw [List.find?_cons_of_pos hp] at h
      cases h
      refine ⟨⟨List.mem_cons_self, hp⟩, ?_⟩
      rintro c ⟨hc, -⟩
      rcases List.mem_cons.mp hc with rfl | hc
      · exact le_rfl
      · exact (hb c hc).le
    · rw [List.find?_cons_of_neg hp] at h
      obtain ⟨⟨hmem, hpa⟩, hle⟩ := ih hrest h
      refine ⟨⟨List.mem_cons_of_mem b hmem, hpa⟩, ?_⟩
      rintro c ⟨hc, hpc⟩
      rcases List.mem_cons.mp hc with rfl | hc
      · exact absurd hpc hp
      · exact hle c ⟨hc, hpc⟩

namespace Tables

variable {t : Tables} {p : Int} {name : String}

def Attempts (t : Tables) (processId : Int) (name : String) (r : TaskRow) : Prop :=
  t.Lists processId r ∧ r.name = name

theorem mem_tasksOf_iff : r ∈ t.tasksOf p ↔ t.Lists p r := by
  rw [tasksOf, (descending_perm _).mem_iff, mem_valid_iff]

theorem attempts_iff :
    (r ∈ t.tasksOf p ∧ decide (r.name = name) = true) ↔ t.Attempts p name r := by
  rw [mem_tasksOf_iff, decide_eq_true_iff, Attempts]

section
variable (ht : KeptRows TaskRow.id TaskRow.stored t.tasks)
include ht

theorem tasksOf_nodup : (t.tasksOf p).Nodup :=
  (descending_perm _).nodup_iff.mpr ((List.Nodup.of_map _ ht.ids).filter _)

theorem startKey_injective (ha : t.Lists p a) (hb : t.Lists p b) (h : a.startKey = b.startKey) :
    a = b := ht.eq_of_id ha.1 hb.1 (orderKey_id h)

theorem tasksOf_descends : (t.tasksOf p).Pairwise fun a b => b.startKey < a.startKey := by
  have hle : (t.tasksOf p).Pairwise fun a b => b.startKey ≤ a.startKey :=
    descending_pairwise TaskRow.startsBefore_iff _
  refine (hle.and (tasksOf_nodup ht)).imp_of_mem ?_
  rintro a b ha hb ⟨hba, hne⟩
  refine hba.lt_of_ne fun heq => hne ?_
  exact (startKey_injective ht (mem_tasksOf_iff.mp hb) (mem_tasksOf_iff.mp ha) heq).symm

theorem tasksOf_find?_iff :
    (t.tasksOf p).find? (fun r => decide (r.name = name)) = some m ↔
      Greatest TaskRow.startKey (t.Attempts p name) m := by
  refine Greatest.found_iff (fun a b ha hb => startKey_injective ht ha.1 hb.1) ?_ ?_
  · intro a ha
    exact (Greatest.congr fun _ => attempts_iff).mp (find?_greatest (tasksOf_descends ht) ha)
  · intro hnone a ha
    obtain ⟨hmem, hname⟩ := attempts_iff.mpr ha
    exact List.find?_eq_none.mp hnone a hmem hname

end
end Tables

-- ---------------------------------------------------------------------------
-- The listing
-- ---------------------------------------------------------------------------

section
variable {t : Tables} {p : Int}

theorem listTasks_outcome (hp : fits p) :
    (Database.listTasks (some t) p).outcome =
      (((t.tasksOf p).mapM TaskRow.toRecord).mapError fun f => .own (.invalidRow .tasks f)) := by
  simp only [Database.listTasks, hp, if_true, replyWith]
  cases (t.tasksOf p).mapM TaskRow.toRecord <;> rfl

theorem listTasks_legible (hp : fits p) (h : ∀ r, t.Lists p r → r.Legible) :
    ∃ records, (Database.listTasks (some t) p).outcome = .ok records ∧
      List.Forall₂ TaskRow.ReadsAs (t.tasksOf p) records := by
  rw [listTasks_outcome hp]
  cases hread : (t.tasksOf p).mapM TaskRow.toRecord with
  | ok records =>
    exact ⟨records, rfl, (mapM_ok.mp hread).imp fun _ _ => TaskRow.toRecord_ok.mp⟩
  | error f =>
    obtain ⟨r, hr, herror⟩ := mapM_error hread
    exact absurd (h r (Tables.mem_tasksOf_iff.mp hr)) (TaskRow.toRecord_error herror).1

theorem listTasks_illegible (hp : fits p) (hr : t.Lists p r) (hillegible : ¬ r.Legible) :
    ∃ r', t.Lists p r' ∧ ¬ r'.Legible ∧ (Database.listTasks (some t) p).outcome =
      .error (.own (.invalidRow .tasks (.notMember (.str r'.state) .status))) := by
  rw [listTasks_outcome hp]
  cases hread : (t.tasksOf p).mapM TaskRow.toRecord with
  | ok records =>
    obtain ⟨a, -, ha⟩ := exists_of_forall₂ (mapM_ok.mp hread).flip (Tables.mem_tasksOf_iff.mpr hr)
    exact absurd ⟨a.status, (TaskRow.toRecord_ok.mp ha).status.symm⟩ hillegible
  | error f =>
    obtain ⟨r', hr', herror⟩ := mapM_error hread
    obtain ⟨hillegible', rfl⟩ := TaskRow.toRecord_error herror
    exact ⟨r', Tables.mem_tasksOf_iff.mp hr', hillegible', rfl⟩

end

-- ---------------------------------------------------------------------------
-- The verdict
-- ---------------------------------------------------------------------------

/-- The state that decides on a named task: that of its latest attempt, and without any that of
the process. -/
inductive Tables.Decides (t : Tables) (e : Execution) (name : String) : Status → Prop
  | attempt : Greatest TaskRow.startKey (t.Attempts e.id name) m → m.state = s.name →
      Decides t e name s
  | process : (∀ r, ¬ t.Attempts e.id name r) → Decides t e name e.status

section
variable {t : Tables} {item : Item} {name : String} {e : Execution} {w : World Stage}

theorem Tables.Decides.unique (ht : KeptRows TaskRow.id TaskRow.stored t.tasks)
    (h : t.Decides e name s) (h' : t.Decides e name s') : s = s' := by
  cases h with
  | attempt hm hs =>
    cases h' with
    | attempt hm' hs' =>
      have hsame := hm.unique (fun a b ha hb => startKey_injective ht ha.1 hb.1) hm'
      rw [hsame, hs'] at hs
      exact (name_injective hs).symm
    | process hnone => exact absurd hm.holds (hnone _)
  | process hnone =>
    cases h' with
    | attempt hm' _ => exact absurd hm'.holds (hnone _)
    | process _ => rfl

def statusIn (item : Item) (e : Execution) (records : List TaskExecution) : Status :=
  ((item.taskIn? records).map TaskExecution.status).getD e.status

theorem statusIn_decides (ht : KeptRows TaskRow.id TaskRow.stored t.tasks)
    (htarget : item.target = .str name)
    (hread : List.Forall₂ TaskRow.ReadsAs (t.tasksOf e.id) records) :
    t.Decides e name (statusIn item e records) := by
  have hname : ∀ (r : TaskRow) (a : TaskExecution), r.ReadsAs a →
      decide (Value.str a.name = item.target) = decide (r.name = name) := by
    intro r a hra
    simp [htarget, hra.name]
  rcases find?_of_forall₂ hname hread with ⟨m, a, hm, ha, hma⟩ | ⟨hnone, hnone'⟩
  · have hstatus : statusIn item e records = a.status := by simp [statusIn, Item.taskIn?, ha]
    rw [hstatus]
    exact .attempt ((Tables.tasksOf_find?_iff ht).mp hm) hma.status.symm
  · have hstatus : statusIn item e records = e.status := by simp [statusIn, Item.taskIn?, hnone']
    rw [hstatus]
    refine .process fun r hr => ?_
    obtain ⟨hmem, hr⟩ := Tables.attempts_iff.mpr hr
    exact List.find?_eq_none.mp hnone r hmem hr

theorem tasks_on_stage (hw : t.OnStage w.state) :
    (Stage.collaborators.tasks p short w.state).1 = Database.listTasks (some t) p := by
  simp only [Stage.collaborators, Stage.tasks, hw.history]

theorem taskVerdict_listed (hw : t.OnStage w.state)
    (h : (Database.listTasks (some t) e.id).outcome = .ok records) :
    (taskVerdict Stage.collaborators item e w).1 = .ok (statusIn item e records).verdict := by
  have hasked : (Stage.collaborators.tasks e.id e.short w.state).1.outcome = .ok records := by
    rw [tasks_on_stage hw, h]
  obtain ⟨w₁, hask, -, -⟩ := Engine.ask_ok (.tasks e.id e.short) hasked
  unfold taskVerdict statusIn
  rw [run_bind_of_ok (Engine.guarded_ok hask _ _)]
  cases item.taskIn? records <;> rfl

theorem taskVerdict_unlisted (hw : t.OnStage w.state)
    (h : (Database.listTasks (some t) e.id).outcome = .error (.own i)) :
    (taskVerdict Stage.collaborators item e w).1 = .error (.own i) := by
  have hasked : (Stage.collaborators.tasks e.id e.short w.state).1.outcome = .error (.own i) := by
    rw [tasks_on_stage hw, h]
  unfold taskVerdict
  rw [run_bind]
  simp only [Engine.guarded, Engine.ask, hasked]

theorem executionVerdict_named (htarget : item.target = .str name) (hnamed : name ≠ wholeProcess) :
    executionVerdict Stage.collaborators item e = taskVerdict Stage.collaborators item e := by
  simp [executionVerdict, Item.dependsOnAll, htarget, hnamed]

/-- The latest attempt of the task decides, and the process where there is none. The rows that are
read are the flagged ones of the process, each once, the last to start first. Where one of them
names no state there is no verdict, and no other row matters. -/
theorem executionVerdict_of_latest_attempt
    (ht : KeptRows TaskRow.id TaskRow.stored t.tasks) (hid : fits e.id)
    (htarget : item.target = .str name) (hnamed : name ≠ wholeProcess) (hw : t.OnStage w.state) :
    ((∀ r, t.Lists e.id r → r.Legible) →
      ((∃ s, t.Decides e name s) ∧ ∀ s, t.Decides e name s →
        (executionVerdict Stage.collaborators item e w).1 = .ok s.verdict) ∧
      ∃ rows records, (Database.listTasks (some t) e.id).outcome = .ok records ∧
        List.Forall₂ TaskRow.ReadsAs rows records ∧ rows.Nodup ∧
        (∀ r, r ∈ rows ↔ t.Lists e.id r) ∧
        rows.Pairwise fun a b => b.startKey < a.startKey) ∧
    ((∃ r, t.Lists e.id r ∧ ¬ r.Legible) →
      ∃ i r, (executionVerdict Stage.collaborators item e w).1 = .error (.own i) ∧
        (Database.listTasks (some t) e.id).outcome = .error (.own i) ∧ i.kind = .storage ∧
        t.Lists e.id r ∧ ¬ r.Legible ∧ i.cause = some (.notMember (.str r.state) .status)) ∧
    ∀ (t' : Tables) (w' : World Stage), KeptRows TaskRow.id TaskRow.stored t'.tasks →
      t'.OnStage w'.state → (∀ r, t.Lists e.id r ↔ t'.Lists e.id r) →
      (executionVerdict Stage.collaborators item e w').1 =
        (executionVerdict Stage.collaborators item e w).1 := by
  simp only [executionVerdict_named htarget hnamed]
  refine ⟨?_, ?_, ?_⟩
  · intro hlegible
    obtain ⟨records, hlisted, hread⟩ := listTasks_legible hid hlegible
    have hdecides := statusIn_decides ht htarget hread
    refine ⟨⟨⟨_, hdecides⟩, fun s hs => ?_⟩, _, records, hlisted, hread, Tables.tasksOf_nodup ht,
      fun r => Tables.mem_tasksOf_iff, Tables.tasksOf_descends ht⟩
    rw [taskVerdict_listed hw hlisted, hdecides.unique ht hs]
  · rintro ⟨r, hr, hillegible⟩
    obtain ⟨r', hr', hillegible', hlisted⟩ := listTasks_illegible hid hr hillegible
    exact ⟨_, r', taskVerdict_unlisted hw hlisted, hlisted, rfl, hr', hillegible', rfl⟩
  · intro t' w' ht' hw' hsame
    have hlist : Database.listTasks (some t') e.id = Database.listTasks (some t) e.id := by
      simp only [Database.listTasks, Tables.tasksOf_eq ht ht' hsame]
    cases hlisted : (Database.listTasks (some t) e.id).outcome with
    | ok records => rw [taskVerdict_listed hw hlisted, taskVerdict_listed hw' (hlist ▸ hlisted)]
    | error f =>
      obtain ⟨i, rfl⟩ : ∃ i, f = .own i := by
        rw [listTasks_outcome hid] at hlisted
        obtain ⟨f', -, rfl⟩ := mapError_error.mp hlisted
        exact ⟨_, rfl⟩
      rw [taskVerdict_unlisted hw hlisted, taskVerdict_unlisted hw' (hlist ▸ hlisted)]

end

-- ---------------------------------------------------------------------------
-- A task that was tried again
-- ---------------------------------------------------------------------------

def attempt (id processId : Int) (state : String) (flag : Bool) (start : Option Time.Moment)
    (id_fits : fits id := by exact Eq.refl true)
    (process_fits : fits processId := by exact Eq.refl true) : TaskRow :=
  { id, processId, name := "load", state, flag, start, id_fits, process_fits }

/-- The third attempt was superseded and the fourth has not started; the fifth belongs to another
process. -/
def retriedTables : Tables where
  tasks := [attempt 1 3 "failure" true (some firstDay.start),
    attempt 2 3 "success" true (some secondDay.start),
    attempt 3 3 "lost" false (some thirdDay.start),
    attempt 4 3 "running_execution" true none,
    attempt 5 9 "lost" true (some thirdDay.start)]

def openRun (id : Int) (short : Number.Short id := by exact Eq.refl true) : Execution :=
  { id, definitionId := 7, status := .runningExecution, runMode := .scheduled, short }

/-- The second attempt succeeds for its process; that of the other process cannot be read. -/
theorem executionVerdict_of_second_attempt :
    (executionVerdict Stage.collaborators loadItem (openRun 3)
        { state := { history := .kept (some retriedTables) } }).1 = .ok .success ∧
      ∃ i, (executionVerdict Stage.collaborators loadItem (openRun 9)
        { state := { history := .kept (some retriedTables) } }).1 = .error (.own i) ∧
          i.kind = .storage := by
  have ht : KeptRows TaskRow.id TaskRow.stored retriedTables.tasks := ⟨by decide, by decide⟩
  have hload : loadItem.target = .str "load" := rfl
  have hnamed : "load" ≠ wholeProcess := by decide
  obtain ⟨hread, -, -⟩ := executionVerdict_of_latest_attempt (e := openRun 3)
    (w := { state := { history := .kept (some retriedTables) } }) ht (by decide) hload hnamed rfl
  obtain ⟨-, hunread, -⟩ := executionVerdict_of_latest_attempt (e := openRun 9)
    (w := { state := { history := .kept (some retriedTables) } }) ht (by decide) hload hnamed rfl
  constructor
  · have hlegible : ∀ r ∈ retriedTables.tasksOf 3, r.Legible := by
      have hrows : retriedTables.tasksOf 3 = [attempt 2 3 "success" true (some secondDay.start),
          attempt 1 3 "failure" true (some firstDay.start),
          attempt 4 3 "running_execution" true none] := by decide +kernel
      rw [hrows]
      simp only [List.forall_mem_cons]
      exact ⟨⟨.success, rfl⟩, ⟨.failure, rfl⟩, ⟨.runningExecution, rfl⟩, List.forall_mem_nil _⟩
    have hlatest : Greatest TaskRow.startKey (retriedTables.Attempts 3 "load")
        (attempt 2 3 "success" true (some secondDay.start)) :=
      (Tables.tasksOf_find?_iff ht).mp (by decide +kernel)
    exact (hread fun r hr => hlegible r (Tables.mem_tasksOf_iff.mpr hr)).1.2 .success
      (.attempt hlatest rfl)
  · have hlost : ¬ (attempt 5 9 "lost" true (some thirdDay.start)).Legible := by
      rintro ⟨s, hs⟩
      cases s <;> exact absurd hs (by decide)
    obtain ⟨i, -, hfault, -, hkind, -⟩ := hunread ⟨_, ⟨by decide, rfl, rfl⟩, hlost⟩
    exact ⟨i, hfault, hkind⟩

end History
end DependencyGate
