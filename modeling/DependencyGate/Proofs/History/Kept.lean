import DependencyGate.History.Change
import DependencyGate.Proofs.Computation
import Mathlib.Data.List.Nodup

/-!
# What the tables keep

Whatever changes were made, the rows of a table have different ids, and their times have
lost their offsets (`Database.kept_of_filled`).
-/

namespace DependencyGate.History

open Time (Moment)

/-- Rows with different ids, each of them as the table keeps it. -/
structure KeptRows {α : Type} (id : α → Int) (stored : α → α) (rows : List α) : Prop where
  ids : (rows.map id).Nodup
  bare : ∀ r ∈ rows, stored r = r

structure Tables.Kept (t : Tables) : Prop where
  processes : KeptRows ProcessRow.id ProcessRow.stored t.processes
  tasks : KeptRows TaskRow.id TaskRow.stored t.tasks

def Database.Kept (db : Database) : Prop := ∀ t, db = some t → t.Kept

-- ---------------------------------------------------------------------------
-- Rows
-- ---------------------------------------------------------------------------

namespace KeptRows

variable {α : Type} {id : α → Int} {stored : α → α} {rows : List α}

theorem nil : KeptRows id stored [] := ⟨List.nodup_nil, List.forall_mem_nil _⟩

theorem append (h : KeptRows id stored rows) (hid : id (stored r) = id r)
    (hbare : stored (stored r) = stored r) (hnew : id r ∉ rows.map id) :
    KeptRows id stored (rows ++ [stored r]) where
  ids := by
    rw [List.map_append, List.map_singleton, hid, ← List.concat_eq_append]
    exact h.ids.concat hnew
  bare := by
    intro p hp
    rcases List.mem_append.mp hp with hp | hp
    · exact h.bare p hp
    · rw [List.mem_singleton.mp hp, hbare]

theorem replace (h : KeptRows id stored rows) (hid : id (stored r) = key)
    (hbare : stored (stored r) = stored r) :
    KeptRows id stored (rows.map fun p => if id p = key then stored r else p) where
  ids := by
    have hsame : (rows.map fun p => if id p = key then stored r else p).map id = rows.map id := by
      rw [List.map_map]
      refine List.map_congr_left fun p _ => ?_
      by_cases hp : id p = key
      · simp [hp, hid]
      · simp [hp]
    rw [hsame]
    exact h.ids
  bare := by
    intro p hp
    obtain ⟨q, hq, rfl⟩ := List.mem_map.mp hp
    split
    · exact hbare
    · exact h.bare q hq

theorem perm (h : KeptRows id stored rows) (hperm : rows'.Perm rows) :
    KeptRows id stored rows' where
  ids := (hperm.map id).nodup_iff.mpr h.ids
  bare r hr := h.bare r (hperm.subset hr)

theorem eq_of_id (h : KeptRows id stored rows) (ha : a ∈ rows) (hb : b ∈ rows)
    (hid : id a = id b) : a = b := List.inj_on_of_nodup_map h.ids ha hb hid

end KeptRows

theorem ProcessRow.stored_stored (r : ProcessRow) : r.stored.stored = r.stored := by
  simp only [stored, Option.map_map]
  rfl

theorem TaskRow.stored_stored (r : TaskRow) : r.stored.stored = r.stored := by
  simp only [stored, Option.map_map]
  rfl

theorem ProcessRow.stop_bare {r : ProcessRow} (h : r.stored = r) (hm : r.stop = some m) :
    m.offset = none := by
  have hstop : r.stop.map Moment.dropOffset = r.stop := congrArg ProcessRow.stop h
  rw [hm] at hstop
  rw [← Option.some.inj hstop]
  rfl

theorem ProcessDraft.row?_id {d : ProcessDraft} (h : d.row? key = some r) : r.id = key := by
  simp only [row?, Option.bind_eq_bind, Option.bind_eq_some_iff] at h
  obtain ⟨_, _, _, _, _, _, h⟩ := h
  split at h
  · cases h
    rfl
  · cases h

theorem TaskDraft.row?_id {d : TaskDraft} (h : d.row? key = some r) : r.id = key := by
  simp only [row?, Option.bind_eq_bind, Option.bind_eq_some_iff] at h
  obtain ⟨_, _, _, _, _, _, _, _, h⟩ := h
  split at h
  · cases h
    rfl
  · cases h

-- ---------------------------------------------------------------------------
-- Changes
-- ---------------------------------------------------------------------------

namespace Tables

variable {t t' : Tables}

theorem addProcess_ok (h : t.addProcess key columns = .ok (r, t')) :
    r.id ∉ t.processes.map ProcessRow.id ∧
      t' = { t with processes := t.processes ++ [r.stored] } := by
  unfold addProcess at h
  simp only at h
  split at h
  · cases h
  · split at h
    · cases h
    · next hrow =>
      split at h
      · cases h
      · next hnew =>
        cases h
        rw [← ProcessDraft.row?_id hrow] at hnew
        exact ⟨by simpa using hnew, rfl⟩

theorem addTask_ok (h : t.addTask key columns = .ok (r, t')) :
    r.id ∉ t.tasks.map TaskRow.id ∧ t' = { t with tasks := t.tasks ++ [r.stored] } := by
  unfold addTask at h
  simp only at h
  split at h
  · cases h
  · split at h
    · cases h
    · next hrow =>
      split at h
      · cases h
      · next hnew =>
        cases h
        rw [← TaskDraft.row?_id hrow] at hnew
        exact ⟨by simpa using hnew, rfl⟩

theorem updateProcess_ok (h : t.updateProcess key columns = .ok (r, t')) :
    r.id = key ∧
      t' = { t with processes := t.processes.map fun p => if p.id = key then r.stored else p } := by
  unfold updateProcess at h
  split at h
  · cases h
  · split at h
    · cases h
    · simp only at h
      split at h
      · cases h
      · split at h
        · cases h
        · next hrow =>
          cases h
          exact ⟨ProcessDraft.row?_id hrow, rfl⟩

theorem updateTask_ok (h : t.updateTask key columns = .ok (r, t')) :
    r.id = key ∧
      t' = { t with tasks := t.tasks.map fun p => if p.id = key then r.stored else p } := by
  unfold updateTask at h
  split at h
  · cases h
  · split at h
    · cases h
    · simp only at h
      split at h
      · cases h
      · split at h
        · cases h
        · next hrow =>
          cases h
          exact ⟨TaskDraft.row?_id hrow, rfl⟩

end Tables

theorem Tables.kept_empty : Tables.Kept {} := ⟨.nil, .nil⟩

theorem Database.kept_some {t : Tables} : Database.Kept (some t) ↔ t.Kept :=
  ⟨fun h => h t rfl, fun h _ hs => Option.some.inj hs ▸ h⟩

theorem Change.apply_kept {change : Change} {db : Database} (hdb : db.Kept)
    (h : change.apply db = .ok (row, db')) : Database.Kept db' := by
  cases db with
  | none => cases h
  | some t =>
    obtain ⟨hprocesses, htasks⟩ := Database.kept_some.mp hdb
    cases change with
    | addProcess key columns =>
      obtain ⟨⟨r, t'⟩, hadd, hdone⟩ := map_ok.mp h
      cases hdone
      obtain ⟨hnew, rfl⟩ := Tables.addProcess_ok hadd
      exact Database.kept_some.mpr ⟨hprocesses.append rfl r.stored_stored hnew, htasks⟩
    | addTask key columns =>
      obtain ⟨⟨r, t'⟩, hadd, hdone⟩ := map_ok.mp h
      cases hdone
      obtain ⟨hnew, rfl⟩ := Tables.addTask_ok hadd
      exact Database.kept_some.mpr ⟨hprocesses, htasks.append rfl r.stored_stored hnew⟩
    | updateProcess key columns =>
      obtain ⟨⟨r, t'⟩, hupdate, hdone⟩ := map_ok.mp h
      cases hdone
      obtain ⟨hid, rfl⟩ := Tables.updateProcess_ok hupdate
      exact Database.kept_some.mpr ⟨hprocesses.replace hid r.stored_stored, htasks⟩
    | updateTask key columns =>
      obtain ⟨⟨r, t'⟩, hupdate, hdone⟩ := map_ok.mp h
      cases hdone
      obtain ⟨hid, rfl⟩ := Tables.updateTask_ok hupdate
      exact Database.kept_some.mpr ⟨hprocesses, htasks.replace hid r.stored_stored⟩

theorem Database.fill_kept {db : Database} (hdb : db.Kept) (h : db.fill changes = .ok db') :
    Database.Kept db' := by
  induction changes generalizing db with
  | nil =>
    cases h
    exact hdb
  | cons change rest ih =>
    obtain ⟨⟨row, db₁⟩, happly, hrest⟩ := bind_ok.mp h
    exact ih (change.apply_kept hdb happly) hrest

/-- Every database that is filled from empty tables is such a one. -/
theorem Database.kept_of_filled (h : Database.fill (some {}) changes = .ok db) : db.Kept :=
  fill_kept (kept_some.mpr Tables.kept_empty) h

end DependencyGate.History
