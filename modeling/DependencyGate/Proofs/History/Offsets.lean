import DependencyGate.History.Change
import DependencyGate.History.Lookup
import DependencyGate.Proofs.Computation
import DependencyGate.Proofs.Matching

/-!
# Offsets and the tables

The tables keep clock readings without their offsets, and lookups compare these readings with
the ends of the interval as they are written. Whatever is written under other offsets is found
again as long as every offset, in the rows and in the interval, changes by one and the same
distance (`lookups_respelled`). An interval that alone is written under another offset names
other readings, and other rows (`scheduled_lost_by_respelling`).
-/

namespace DependencyGate

open Json (Value)
open Time (Moment Interval)

-- ---------------------------------------------------------------------------
-- The same instants under other offsets
-- ---------------------------------------------------------------------------

/-- The same instant, written under an offset that is larger by a distance. -/
structure Time.Moment.Respelled (distance : Int) (m m' : Moment) : Prop where
  instant : m'.instant = m.instant
  offset : ∃ o, m.offset = some o ∧ m'.offset = some (o + distance)

structure Time.Interval.Respelled (distance : Int) (i i' : Interval) : Prop where
  start : i.start.Respelled distance i'.start
  stop : i.stop.Respelled distance i'.stop

def Time.Moment.Moved (distance : Int) (m m' : Moment) : Prop := m'.wall = m.wall + distance

theorem Time.Moment.Respelled.moved (h : Respelled distance m m') : m.Moved distance m' := by
  obtain ⟨o, ho, ho'⟩ := h.offset
  have hinstant := h.instant
  simp only [Moment.instant, ho, ho', Option.getD_some] at hinstant
  unfold Moved
  omega

namespace History

/-- Rows that differ in their times only, and in these by `related`. -/
structure ProcessRow.Alike (related : Moment → Moment → Prop) (r r' : ProcessRow) : Prop where
  id : r'.id = r.id
  definitionId : r'.definitionId = r.definitionId
  state : r'.state = r.state
  runMode : r'.runMode = r.runMode
  schedule : Option.Rel related r.schedule r'.schedule
  start : Option.Rel related r.start r'.start
  stop : Option.Rel related r.stop r'.stop

theorem dropOffset_moved {time time' : Option Moment}
    (h : Option.Rel (Moment.Respelled distance) time time') :
    Option.Rel (Moment.Moved distance) (time.map Moment.dropOffset)
      (time'.map Moment.dropOffset) := by
  cases h with
  | none => exact .none
  | some h => exact .some h.moved

theorem ProcessRow.Alike.stored (h : Alike (Moment.Respelled distance) r r') :
    Alike (Moment.Moved distance) r.stored r'.stored where
  id := h.id
  definitionId := h.definitionId
  state := h.state
  runMode := h.runMode
  schedule := dropOffset_moved h.schedule
  start := dropOffset_moved h.start
  stop := dropOffset_moved h.stop

-- ---------------------------------------------------------------------------
-- Lookups in moved rows
-- ---------------------------------------------------------------------------

section
variable {distance : Int} {i i' : Interval}

theorem timeRank_moved {a a' b b' : Option Moment} (ha : Option.Rel (Moment.Moved distance) a a')
    (hb : Option.Rel (Moment.Moved distance) b b') :
    (timeRank a' < timeRank b' ↔ timeRank a < timeRank b) ∧
      (timeRank a' = timeRank b' ↔ timeRank a = timeRank b) := by
  cases ha with
  | none =>
    cases hb with
    | none => exact ⟨Iff.rfl, Iff.rfl⟩
    | @some n n' hn =>
      have := n.wall_mem
      have := n'.wall_mem
      simp only [timeRank]
      omega
  | @some m m' hm =>
    have := m.wall_mem
    have := m'.wall_mem
    simp only [Moment.Moved] at hm
    cases hb with
    | none =>
      simp only [timeRank]
      omega
    | @some n n' hn =>
      simp only [Moment.Moved] at hn
      simp only [timeRank]
      omega

theorem earlier_moved {a a' b b' : Option Moment} (ha : Option.Rel (Moment.Moved distance) a a')
    (hb : Option.Rel (Moment.Moved distance) b b') (id₁ id₂ : Int) :
    earlier a' id₁ b' id₂ = earlier a id₁ b id₂ := by
  obtain ⟨hlt, heq⟩ := timeRank_moved ha hb
  rw [Bool.eq_iff_iff]
  simp only [earlier, Bool.or_eq_true, Bool.and_eq_true, decide_eq_true_eq, beq_iff_eq, hlt, heq]

theorem inWindow_moved (hi : i.Respelled distance i')
    (h : Option.Rel (Moment.Moved distance) time time') : inWindow i' time' = inWindow i time := by
  cases h with
  | none => rfl
  | @some m m' h =>
    have hstart := hi.start.moved
    have hstop := hi.stop.moved
    simp only [Moment.Moved] at h hstart hstop
    simp only [inWindow, h, hstart, hstop, Int.add_le_add_iff_right]

namespace ProcessRow

variable {r r' : ProcessRow} (h : r.Alike (Moment.Moved distance) r')
include h

theorem Alike.isRunningIn (hi : i.Respelled distance i') :
    r'.isRunningIn i' = r.isRunningIn i := by
  rw [ProcessRow.isRunningIn, h.state, inWindow_moved hi h.schedule, inWindow_moved hi h.start]
  rfl

theorem Alike.isScheduledIn (hi : i.Respelled distance i') :
    r'.isScheduledIn i' = r.isScheduledIn i := by
  rw [ProcessRow.isScheduledIn, h.runMode, inWindow_moved hi h.schedule]
  rfl

theorem Alike.isManualIn (hi : i.Respelled distance i') :
    r'.isManualIn i' = r.isManualIn i := by
  rw [ProcessRow.isManualIn, h.runMode, inWindow_moved hi h.stop]
  rfl

end ProcessRow

theorem greatest?_matched {α β : Type} {R : α → β → Prop} {before : α → α → Bool}
    {before' : β → β → Bool}
    (hbefore : ∀ a a' b b', R a a' → R b b' → before' a' b' = before a b) {l : List α} {l' : List β}
    (h : List.Forall₂ R l l') : Option.Rel R (greatest? before l) (greatest? before' l') := by
  induction h with
  | nil => exact .none
  | @cons a a' rest rest' ha _ ih =>
    simp only [greatest?]
    match greatest? before rest, greatest? before' rest', ih with
    | none, none, .none => exact .some ha
    | some b, some b', .some hb =>
      simp only [hbefore a a' b b' ha hb]
      split
      · exact .some hb
      · exact .some ha

theorem latest?_moved {t t' : Tables} {matching matching' : ProcessRow → Bool}
    {before : ProcessRow → ProcessRow → Bool}
    (ht : List.Forall₂ (ProcessRow.Alike (Moment.Moved distance)) t.processes t'.processes)
    (hmatching : ∀ r r', r.Alike (Moment.Moved distance) r' → matching' r' = matching r)
    (hbefore : ∀ a a' b b', a.Alike (Moment.Moved distance) a' →
      b.Alike (Moment.Moved distance) b' → before a' b' = before a b) (n : Int) :
    Option.Rel (ProcessRow.Alike (Moment.Moved distance)) (t.latest? n matching before)
      (t'.latest? n matching' before) := by
  refine greatest?_matched hbefore (List.rel_filter ?_ ht)
  intro r r' h
  beta_reduce
  rw [h.definitionId, hmatching r r' h]

theorem startsBefore_moved {a a' b b' : ProcessRow} (ha : a.Alike (Moment.Moved distance) a')
    (hb : b.Alike (Moment.Moved distance) b') : a'.startsBefore b' = a.startsBefore b := by
  rw [ProcessRow.startsBefore, earlier_moved ha.start hb.start, ha.id, hb.id]
  rfl

theorem stopsBefore_moved {a a' b b' : ProcessRow} (ha : a.Alike (Moment.Moved distance) a')
    (hb : b.Alike (Moment.Moved distance) b') : a'.stopsBefore b' = a.stopsBefore b := by
  rw [ProcessRow.stopsBefore, earlier_moved ha.stop hb.stop, ha.id, hb.id]
  rfl

-- ---------------------------------------------------------------------------
-- Replies
-- ---------------------------------------------------------------------------

def rowId (reply : Reply (Option Execution)) : Except Fault (Option Int) :=
  reply.outcome.map (Option.map Execution.id)

theorem toRecord_alike {related : Moment → Moment → Prop} {r r' : ProcessRow}
    (h : r.Alike related r') : r'.toRecord.map Execution.id = r.toRecord.map Execution.id := by
  simp only [ProcessRow.toRecord, h.state, h.runMode]
  cases readStatus r.state with
  | error f => rfl
  | ok status =>
    cases readRunMode r.runMode with
    | error f => rfl
    | ok mode => exact congrArg Except.ok h.id

theorem rowId_replyWith (lookup : Lookup) (x : Except Foreign Execution) :
    rowId (replyWith lookup (x.map some)) = match x.map Execution.id with
      | .ok id => .ok (some id)
      | .error f => .error (.own (.invalidRow lookup f)) := by
  cases x <;> rfl

theorem replyRow_matched {related : Moment → Moment → Prop} {t t' : Tables}
    {find find' : Tables → Int → Option ProcessRow}
    (h : ∀ n, Option.Rel (ProcessRow.Alike related) (find t n) (find' t' n)) (lookup : Lookup)
    (definitionId : Value) :
    rowId (replyRow lookup (some t') definitionId find') =
      rowId (replyRow lookup (some t) definitionId find) := by
  unfold replyRow
  cases ColumnKey.ofValue definitionId with
  | unfit => rfl
  | nothing => rfl
  | number n =>
    have hfound := h n
    simp only
    split
    · generalize find t n = found, find' t' n = found' at hfound
      cases hfound with
      | none => rfl
      | some hr => rw [rowId_replyWith, rowId_replyWith, toRecord_alike hr]
    · rfl

-- ---------------------------------------------------------------------------
-- Insertion
-- ---------------------------------------------------------------------------

def ProcessRow.insertion (r : ProcessRow) : Change :=
  .addProcess (some r.id) [.definitionId (some r.definitionId), .name r.name,
    .state (some r.state), .runMode (some r.runMode), .schedule r.schedule, .start r.start,
    .stop r.stop]

theorem apply_insertion (r : ProcessRow) (t : Tables) : r.insertion.apply (some t) =
    if (t.processes.map ProcessRow.id).any (· == r.id) then .error (.database .integrity)
    else .ok (.process r, some { t with processes := t.processes ++ [r.stored] }) := by
  have hwide : anyWide [some r.id, some r.definitionId] = false := by
    simp [anyWide, r.id_fits, r.definition_fits]
  have hrow : ProcessDraft.row? (.ofRow r) r.id = some r := by
    simp [ProcessDraft.row?, ProcessDraft.ofRow, r.id_fits, r.definition_fits]
  have hdraft : ([.definitionId (some r.definitionId), .name r.name, .state (some r.state),
      .runMode (some r.runMode), .schedule r.schedule, .start r.start,
      .stop r.stop].foldl ProcessDraft.set {}).withDefaults = .ofRow r := rfl
  simp only [ProcessRow.insertion, Change.apply, Tables.addProcess, hdraft, nextId, hrow,
    show (ProcessDraft.ofRow r).definitionId = some r.definitionId from rfl, hwide,
    Bool.false_eq_true, if_false, List.any_map]
  exact apply_ite _ _ _ _

theorem fill_matched {rows rows' : List ProcessRow} {t t' : Tables}
    (hrows : List.Forall₂ (ProcessRow.Alike (Moment.Respelled distance)) rows rows')
    (ht : List.Forall₂ (ProcessRow.Alike (Moment.Moved distance)) t.processes t'.processes)
    (h : Database.fill (some t) (rows.map ProcessRow.insertion) = .ok db) :
    ∃ s s', db = some s ∧ Database.fill (some t') (rows'.map ProcessRow.insertion) = .ok (some s') ∧
      List.Forall₂ (ProcessRow.Alike (Moment.Moved distance)) s.processes s'.processes := by
  induction hrows generalizing t t' with
  | nil =>
    cases h
    exact ⟨t, t', rfl, rfl, ht⟩
  | @cons r r' rest rest' hr _ ih =>
    have hids : t'.processes.map ProcessRow.id = t.processes.map ProcessRow.id :=
      map_eq_of_forall₂ (fun _ _ h => h.id) ht
    obtain ⟨⟨row, next⟩, happly, hrest⟩ := bind_ok.mp h
    rw [apply_insertion] at happly
    split at happly
    next => cases happly
    next hnew =>
      cases happly
      have hadded : List.Forall₂ (ProcessRow.Alike (Moment.Moved distance))
          (t.processes ++ [r.stored])
          { t' with processes := t'.processes ++ [r'.stored] : Tables }.processes :=
        List.rel_append ht (.cons hr.stored .nil)
      obtain ⟨s, s', hs, hs', hmatch⟩ := ih hadded hrest
      refine ⟨s, s', hs, bind_ok.mpr ⟨(.process r', _), ?_, hs'⟩, hmatch⟩
      rw [apply_insertion, hr.id, hids, if_neg hnew]

/-- Rows with times under any offsets, and an interval, are written under offsets that are larger
by one distance. The rows can be added as before, and every lookup finds the same row. -/
theorem lookups_respelled {rows rows' : List ProcessRow}
    (hrows : List.Forall₂ (ProcessRow.Alike (Moment.Respelled distance)) rows rows')
    (hi : i.Respelled distance i')
    (h : Database.fill (some {}) (rows.map ProcessRow.insertion) = .ok db) :
    ∃ db', Database.fill (some {}) (rows'.map ProcessRow.insertion) = .ok db' ∧
      ∀ definitionId,
        rowId (db'.findRunning definitionId i') = rowId (db.findRunning definitionId i) ∧
        rowId (db'.findScheduled definitionId i') = rowId (db.findScheduled definitionId i) ∧
        rowId (db'.findManual definitionId i') = rowId (db.findManual definitionId i) := by
  have hempty : List.Forall₂ (ProcessRow.Alike (Moment.Moved distance)) ({} : Tables).processes
      ({} : Tables).processes := .nil
  obtain ⟨t, t', rfl, hfill, ht⟩ := fill_matched hrows hempty h
  refine ⟨some t', hfill, fun definitionId => ⟨?_, ?_, ?_⟩⟩
  · exact replyRow_matched (fun n => latest?_moved ht (fun _ _ h => h.isRunningIn hi)
      (fun _ _ _ _ => startsBefore_moved) n) .running definitionId
  · exact replyRow_matched (fun n => latest?_moved ht (fun _ _ h => h.isScheduledIn hi)
      (fun _ _ _ _ => stopsBefore_moved) n) .scheduled definitionId
  · exact replyRow_matched (fun n => latest?_moved ht (fun _ _ h => h.isManualIn hi)
      (fun _ _ _ _ => stopsBefore_moved) n) .manual definitionId

end

-- ---------------------------------------------------------------------------
-- A night written twice
-- ---------------------------------------------------------------------------

/-- A run that starts at 22:00 UTC, on 1 May 2024, and takes an hour. -/
def nightRun : ProcessRow where
  id := 1
  definitionId := 7
  state := Status.success.name
  runMode := RunMode.scheduled.name
  schedule := some ⟨63850197600000000, some 0, by decide⟩
  start := some ⟨63850197600000000, some 0, by decide⟩
  stop := some ⟨63850201200000000, some 0, by decide⟩

def morningRun : ProcessRow where
  id := 1
  definitionId := 7
  state := Status.success.name
  runMode := RunMode.scheduled.name
  schedule := some ⟨63850226400000000, some (8 * Time.hour), by decide⟩
  start := some ⟨63850226400000000, some (8 * Time.hour), by decide⟩
  stop := some ⟨63850230000000000, some (8 * Time.hour), by decide⟩

def secondOfMay : Interval :=
  ⟨⟨63850204800000000, some (8 * Time.hour), by decide⟩,
    ⟨63850291199999999, some (8 * Time.hour), by decide⟩, by decide⟩

def secondOfMayInUtc : Interval :=
  ⟨⟨63850176000000000, some 0, by decide⟩, ⟨63850262399999999, some 0, by decide⟩, by decide⟩

theorem secondOfMay_respelled : secondOfMayInUtc.Respelled (8 * Time.hour) secondOfMay :=
  ⟨⟨by decide, 0, rfl, rfl⟩, ⟨by decide, 0, rfl, rfl⟩⟩

/-- The night run is found on a day in UTC, and lost on the same day under another offset. -/
theorem scheduled_lost_by_respelling :
    secondOfMayInUtc.Respelled (8 * Time.hour) secondOfMay ∧
    ∃ db, Database.fill (some {}) [nightRun.insertion] = .ok db ∧
      rowId (db.findScheduled (.int 7) secondOfMayInUtc) = .ok (some 1) ∧
      rowId (db.findScheduled (.int 7) secondOfMay) = .ok none :=
  ⟨secondOfMay_respelled, _, rfl, rfl, rfl⟩

/-- It is found there once the run is written under that offset as well. -/
theorem scheduled_found_by_respelling :
    ∃ db, Database.fill (some {}) [morningRun.insertion] = .ok db ∧
      rowId (db.findScheduled (.int 7) secondOfMay) = .ok (some 1) := by
  have hrun : nightRun.Alike (Moment.Respelled (8 * Time.hour)) morningRun :=
    ⟨rfl, rfl, rfl, rfl, .some ⟨by decide, 0, rfl, rfl⟩, .some ⟨by decide, 0, rfl, rfl⟩,
      .some ⟨by decide, 0, rfl, rfl⟩⟩
  obtain ⟨db, hdb, hfound⟩ := lookups_respelled (.cons hrun .nil) secondOfMay_respelled rfl
  exact ⟨db, hdb, (hfound (.int 7)).2.1⟩

end History
end DependencyGate
