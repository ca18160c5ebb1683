import DependencyGate.Proofs.GatedTask.Faults
import DependencyGate.Proofs.History.Selected

/-!
# A history on a stage

Lookups leave a history as it is, unless it is scripted. All ends that a database answers go by the
clock, so that a poll never meets two that cannot be compared: every fault of a poll is an incident
(`poll_fault_own`).
-/

namespace DependencyGate

open Json (Value)
open Rehearsal (HistorySource Stage)
open Time (Moment Interval)

/-- The history is no script, and if it is a database, it is one that changes lead to. -/
def Rehearsal.HistorySource.Kept : HistorySource → Prop
  | .kept db => db.Kept
  | .refusing _ => True
  | .scripted _ => False

def Rehearsal.HistorySource.Staged (h : HistorySource) (s : Stage) : Prop := s.history = h

namespace History

theorem replyRow_some {db : Database} {id : Value} {find : Tables → Int → Option ProcessRow}
    (h : (replyRow lookup db id find).outcome = .ok (some e)) :
    ∃ t n, db = some t ∧ ColumnKey.ofValue id = .number n ∧
      (find t n).bind ProcessRow.record? = some e := by
  unfold replyRow at h
  split at h
  next => cases h
  next => cases h
  next => cases h
  next t n hkey =>
    refine ⟨t, n, rfl, hkey, ?_⟩
    split at h
    next =>
      split at h
      next => cases h
      next r hr =>
        rw [hr, Option.bind_some, ProcessRow.record?_eq_some_iff]
        cases hrecord : r.toRecord with
        | error f =>
          rw [hrecord] at h
          cases h
        | ok e' =>
          rw [hrecord] at h
          cases h
          rfl
    next => cases h

theorem unopenedReply_error (lookup : Lookup) (f : Foreign) (a : α) :
    (unopenedReply lookup f).outcome ≠ .ok a := by
  unfold unopenedReply
  split
  next => nofun
  next => split <;> nofun

end History

namespace Rehearsal.Stage

open History

variable {h : HistorySource}

theorem unscripted (hh : h.Kept) {s : Stage} (hs : h.Staged s) :
    (∃ db, s.history = .kept db ∧ db.Kept) ∨ ∃ f, s.history = .refusing f := by
  cases h with
  | kept db => exact .inl ⟨db, hs, hh⟩
  | refusing f => exact .inr ⟨f, hs⟩
  | scripted script => exact hh.elim

theorem stay_staged (hh : h.Kept) : collaborators.Stay h.Staged where
  resolve t date s hs := by
    simp only [collaborators, resolve]
    split
    · split <;> exact hs
    · exact hs
  running id i s hs := by
    obtain ⟨db, hdb, -⟩ | ⟨f, hf⟩ := unscripted hh hs
    · simpa only [collaborators, running, hdb] using hs
    · simpa only [collaborators, running, hf] using hs
  scheduled id i s hs := by
    obtain ⟨db, hdb, -⟩ | ⟨f, hf⟩ := unscripted hh hs
    · simpa only [collaborators, scheduled, hdb] using hs
    · simpa only [collaborators, scheduled, hf] using hs
  manual id i s hs := by
    obtain ⟨db, hdb, -⟩ | ⟨f, hf⟩ := unscripted hh hs
    · simpa only [collaborators, manual, hdb] using hs
    · simpa only [collaborators, manual, hf] using hs
  tasks p _ s hs := by
    obtain ⟨db, hdb, -⟩ | ⟨f, hf⟩ := unscripted hh hs
    · simpa only [collaborators, tasks, hdb] using hs
    · simpa only [collaborators, tasks, hf] using hs

theorem not_mixesEnds {id : Value} (hh : h.Kept) {s : Stage} (hs : h.Staged s) :
    ¬ collaborators.MixesEnds id i s := by
  rintro ⟨hrunning, a, b, hscheduled, hmanual, hmixed⟩
  have hs₁ := (stay_staged hh).running id i s hs
  have hs₂ := (stay_staged hh).scheduled id i _ hs₁
  cases h with
  | refusing f =>
    simp only [collaborators, running, show s.history = .refusing f from hs] at hrunning
    exact unopenedReply_error _ _ _ hrunning
  | scripted script => exact hh
  | kept db =>
    generalize (collaborators.running id i s).2 = s₁ at hs₁ hs₂ hscheduled hmanual
    generalize (collaborators.scheduled id i s₁).2 = s₂ at hs₂ hmanual
    simp only [collaborators, scheduled, show s₁.history = .kept db from hs₁] at hscheduled
    simp only [collaborators, manual, show s₂.history = .kept db from hs₂] at hmanual
    obtain ⟨t, n, rfl, hkey, ha⟩ := replyRow_some hscheduled
    obtain ⟨t', n', ht', hkey', hb⟩ := replyRow_some hmanual
    cases ht'
    cases hkey.symm.trans hkey'
    have hcomparable : (t.records n).Comparable id :=
      Tables.records_comparable (hh t rfl).processes
    exact hmixed (hcomparable i a b ha hb)

theorem poll_fault_own (hh : h.Kept) {task : GatedTask} {w : World Stage}
    (hsound : ∀ g ∈ task.gates, g.Sound) (hw : h.Staged w.state)
    (hfault : (GatedTask.poll collaborators t (task, w)).1 = .error f) :
    ∃ i, f = .own i := by
  cases f with
  | own i => exact ⟨i, rfl⟩
  | foreign f =>
    obtain ⟨g, -, item, -, -, i, s, hs, hmixed⟩ :=
      pollGates_contains (stay_staged hh) hsound hw (GatedTask.poll_fault hfault)
    exact absurd hmixed (not_mixesEnds hh hs)

end Rehearsal.Stage
end DependencyGate
