import DependencyGate.Proofs.History.Selected

/-!
# Answers on one row

Each lookup of a process filters rows, takes the greatest of them and reads that one alone. A row
that cannot be read makes the lookup fail when it is the greatest, and does nothing otherwise
(`lookups_answer`).
-/

namespace DependencyGate

open Json (Value)
open Time (Interval Moment)

namespace History

-- ---------------------------------------------------------------------------
-- Reading a row
-- ---------------------------------------------------------------------------

structure IsRecordOf (r : ProcessRow) (e : Execution) : Prop where
  id : e.id = r.id
  definitionId : e.definitionId = r.definitionId
  status : e.status.name = r.state
  runMode : e.runMode.name = r.runMode
  start : e.start = r.start
  stop : e.stop = r.stop
  schedule : e.schedule = r.schedule
  name : e.name = r.name

/-- An incident of the store that names a lookup, with the value that cannot be read in a row as
its cause. -/
structure Reports (lookup : Lookup) (r : ProcessRow) (i : Incident) : Prop where
  kind : i.kind = .storage
  operation : i.context = [("operation", .str lookup.name)]
  cause : ∃ f, i.cause = some f ∧ r.toRecord = .error f ∧ f.cls = .value

variable {r : ProcessRow}

theorem isRecordOf_of_toRecord (h : r.toRecord = .ok e) : IsRecordOf r e := by
  obtain ⟨hstate, hmode, he⟩ := ProcessRow.toRecord_ok.mp h
  rw [he] at hstate hmode ⊢
  exact ⟨rfl, rfl, hstate.symm, hmode.symm, rfl, rfl, rfl, rfl⟩

theorem legible_iff : r.Legible ↔ ∃ e, r.toRecord = .ok e := by
  refine ⟨ProcessRow.Legible.toRecord, ?_⟩
  rintro ⟨e, he⟩
  obtain ⟨hstate, hmode, -⟩ := ProcessRow.toRecord_ok.mp he
  exact ⟨⟨_, hstate⟩, _, hmode⟩

theorem readStatus_error (h : readStatus name = .error f) : f.cls = .value := by
  unfold readStatus at h
  split at h
  · cases h
  · cases h
    rfl

theorem readRunMode_error (h : readRunMode name = .error f) : f.cls = .value := by
  unfold readRunMode at h
  split at h
  · cases h
  · cases h
    rfl

theorem toRecord_error (h : r.toRecord = .error f) : f.cls = .value := by
  rcases bind_error.mp h with h | ⟨s, -, h⟩
  · exact readStatus_error h
  rcases bind_error.mp h with h | ⟨m, -, h⟩
  · exact readRunMode_error h
  · cases h

theorem reports_invalidRow (lookup : Lookup) (h : r.toRecord = .error f) :
    Reports lookup r (.invalidRow lookup f) :=
  ⟨rfl, rfl, f, rfl, h, toRecord_error h⟩

-- ---------------------------------------------------------------------------
-- Answering
-- ---------------------------------------------------------------------------

/-- A lookup answers on the greatest, by a key, of the rows that it considers: with nothing when
there is none, with the record of that row when it can be read, and else with an incident. Other
rows do not matter. -/
structure AnswersOnGreatest {κ : Type} [LinearOrder κ] (lookup : Lookup) (key : ProcessRow → κ)
    (rows : Tables → ProcessRow → Prop) (reply : Tables → Reply (Option Execution)) : Prop where
  greatest : ∀ t, t.Kept → (∃ r, rows t r) → ∃! m, Greatest key (rows t) m
  nothing : ∀ t, t.Kept → ((reply t).outcome = .ok none ↔ ∀ r, ¬ rows t r)
  record : ∀ t m, t.Kept → Greatest key (rows t) m →
    ((∃ e, (reply t).outcome = .ok (some e) ∧ IsRecordOf m e) ↔ m.Legible)
  incident : ∀ t m, t.Kept → Greatest key (rows t) m →
    ((∃ i, (reply t).outcome = .error (.own i) ∧ Reports lookup m i) ↔ ¬ m.Legible)
  alone : ∀ t t' m, t.Kept → t'.Kept → Greatest key (rows t) m → Greatest key (rows t') m →
    reply t = reply t'

section
variable {κ : Type} [LinearOrder κ] {key : ProcessRow → κ} {rows : Tables → ProcessRow → Prop}
  {find : Tables → Int → Option ProcessRow} {id : Value} {n : Int}

/-- What is found decides the answer, and only the greatest is found. -/
theorem replyRow_answers (hid : ColumnKey.ofValue id = .number n) (hn : fits n)
    (hnone : ∀ t, find t n = none ↔ ∀ r, ¬ rows t r)
    (hsome : ∀ t r, t.Kept → (find t n = some r ↔ Greatest key (rows t) r)) (lookup : Lookup) :
    AnswersOnGreatest lookup key rows fun t => replyRow lookup (some t) id find where
  greatest := by
    rintro t ht ⟨r, hr⟩
    cases hfound : find t n with
    | none => exact absurd hr ((hnone t).mp hfound r)
    | some m =>
      refine ⟨m, (hsome t m ht).mp hfound, fun m' hm' => ?_⟩
      have hfound' := (hsome t m' ht).mpr hm'
      rw [hfound] at hfound'
      exact (Option.some.inj hfound').symm
  nothing := by
    intro t ht
    rw [← hnone]
    cases hfound : find t n with
    | none => simp [replyRow_none hid hn hfound]
    | some m =>
      rw [replyRow_found hid hn hfound]
      cases m.toRecord <;> simp [replyWith, Except.map]
  record := by
    intro t m ht hm
    rw [replyRow_found hid hn ((hsome t m ht).mpr hm), legible_iff]
    constructor
    · rintro ⟨e, he, -⟩
      cases hrecord : m.toRecord with
      | ok e' => exact ⟨e', rfl⟩
      | error f =>
        rw [hrecord] at he
        cases he
    · rintro ⟨e, he⟩
      rw [he]
      exact ⟨e, rfl, isRecordOf_of_toRecord he⟩
  incident := by
    intro t m ht hm
    rw [replyRow_found hid hn ((hsome t m ht).mpr hm), legible_iff]
    constructor
    · rintro ⟨i, hi, -⟩ ⟨e, he⟩
      rw [he] at hi
      cases hi
    · intro hillegible
      cases hrecord : m.toRecord with
      | ok e => exact absurd ⟨e, hrecord⟩ hillegible
      | error f => exact ⟨_, rfl, reports_invalidRow lookup hrecord⟩
  alone := by
    intro t t' m ht ht' hm hm'
    have hfound := (hsome t m ht).mpr hm
    have hfound' := (hsome t' m ht').mpr hm'
    rw [replyRow_found hid hn hfound, replyRow_found hid hn hfound']

end

/-- The lookup of what is under way answers on the row that started last, and those of scheduled
and of manual executions on the one that ended last. -/
theorem lookups_answer {n : Int} (hn : fits n) (i : Interval) :
    AnswersOnGreatest .running ProcessRow.startKey (fun t => t.UnderWay n i)
      (fun t => Database.findRunning (some t) (.int n (short_of_fits hn)) i) ∧
    AnswersOnGreatest .scheduled ProcessRow.stopKey
      (fun t => t.OfDefinition n (ProcessRow.Due i))
      (fun t => Database.findScheduled (some t) (.int n (short_of_fits hn)) i) ∧
    AnswersOnGreatest .manual ProcessRow.stopKey
      (fun t => t.OfDefinition n (ProcessRow.Done i))
      (fun t => Database.findManual (some t) (.int n (short_of_fits hn)) i) := by
  have hid : ColumnKey.ofValue (.int n (short_of_fits hn)) = .number n := rfl
  refine ⟨?_, ?_, ?_⟩
  · exact replyRow_answers hid hn (fun t => Tables.running?_eq_none_iff)
      (fun t r ht => Tables.running?_eq_some_iff ht.processes) .running
  · exact replyRow_answers hid hn (fun t => Tables.scheduled?_eq_none_iff)
      (fun t r ht => Tables.scheduled?_eq_some_iff ht.processes) .scheduled
  · exact replyRow_answers hid hn (fun t => Tables.manual?_eq_none_iff)
      (fun t r ht => Tables.manual?_eq_some_iff ht.processes) .manual

def runOfFirstDay (id : Int) (state : String) (stop : Option Moment)
    (id_fits : fits id := by exact Eq.refl true) : ProcessRow :=
  { id, definitionId := 7, state, runMode := "scheduled", schedule := some firstDay.start, stop,
    id_fits }

/-- A run in a state that does not exist makes the lookup fail when it ended last, although another
can be read; that other one is returned when it ended last. -/
theorem findScheduled_among_spoilt_runs :
    (∃ i, (Database.findScheduled (some { processes :=
          [runOfFirstDay 1 "success" none, runOfFirstDay 2 "lost" (some firstDay.stop)] })
        (.int 7) firstDay).outcome = .error (.own i) ∧
      Reports .scheduled (runOfFirstDay 2 "lost" (some firstDay.stop)) i) ∧
    ∃ e, (Database.findScheduled (some { processes :=
          [runOfFirstDay 1 "success" (some firstDay.start), runOfFirstDay 2 "lost" none] })
        (.int 7) firstDay).outcome = .ok (some e) ∧
      IsRecordOf (runOfFirstDay 1 "success" (some firstDay.start)) e := by
  obtain ⟨-, hscheduled, -⟩ := lookups_answer (n := 7) rfl firstDay
  constructor
  · refine (hscheduled.incident { processes := [_, _] } _
      ⟨⟨by decide, by decide⟩, .nil⟩ ?_).mpr ?_
    · refine (Tables.scheduled?_eq_some_iff ⟨by decide, by decide⟩).mp ?_
      decide +kernel
    · rintro ⟨⟨s, hs⟩, -⟩
      cases s <;> exact absurd hs (by decide)
  · refine (hscheduled.record { processes := [_, _] } _
      ⟨⟨by decide, by decide⟩, .nil⟩ ?_).mpr ⟨⟨.success, rfl⟩, .scheduled, rfl⟩
    refine (Tables.scheduled?_eq_some_iff ⟨by decide, by decide⟩).mp ?_
    decide +kernel

end History
end DependencyGate
