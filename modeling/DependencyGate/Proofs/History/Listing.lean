import DependencyGate.Proofs.History.Greatest

/-!
# Listed rows

`descending` lists what it is given from the greatest to the least. Where different rows have
different keys there is only one such list, so that it depends on which rows there are and not on
the order in which they stand (`descending_eq_of_mem_iff`).
-/

namespace DependencyGate.History

section
variable {α κ : Type} {before : α → α → Bool}

theorem insertDescending_perm (a : α) (l : List α) :
    (insertDescending before a l).Perm (a :: l) := by
  induction l with
  | nil => exact .refl _
  | cons b rest ih =>
    unfold insertDescending
    split
    · exact (ih.cons b).trans (.swap a b rest)
    · exact .refl _

theorem descending_perm (l : List α) : (descending before l).Perm l := by
  induction l with
  | nil => exact .refl _
  | cons a rest ih => exact (insertDescending_perm a _).trans (ih.cons a)

variable [LinearOrder κ] {key : α → κ} (hkey : ∀ a b, before a b = true ↔ key a < key b)
include hkey

theorem insertDescending_pairwise (a : α) {l : List α}
    (h : l.Pairwise fun a b => key b ≤ key a) :
    (insertDescending before a l).Pairwise fun a b => key b ≤ key a := by
  induction l with
  | nil => exact List.pairwise_singleton _ a
  | cons b rest ih =>
    obtain ⟨hb, hrest⟩ := List.pairwise_cons.mp h
    unfold insertDescending
    split
    next hab =>
      refine List.pairwise_cons.mpr ⟨fun c hc => ?_, ih hrest⟩
      rcases List.mem_cons.mp ((insertDescending_perm a rest).subset hc) with rfl | hc
      · exact ((hkey c b).mp hab).le
      · exact hb c hc
    next hab =>
      have hba : key b ≤ key a := not_lt.mp (mt (hkey a b).mpr hab)
      refine List.pairwise_cons.mpr ⟨fun c hc => ?_, h⟩
      rcases List.mem_cons.mp hc with rfl | hc
      · exact hba
      · exact (hb c hc).trans hba

theorem descending_pairwise (l : List α) :
    (descending before l).Pairwise fun a b => key b ≤ key a := by
  induction l with
  | nil => exact .nil
  | cons a rest ih => exact insertDescending_pairwise hkey a ih

theorem descending_eq_of_mem_iff {l l' : List α}
    (hinj : ∀ a b, a ∈ l → b ∈ l → key a = key b → a = b) (hl : l.Nodup) (hl' : l'.Nodup)
    (h : ∀ a, a ∈ l ↔ a ∈ l') : descending before l = descending before l' := by
  have hperm : (descending before l).Perm (descending before l') :=
    (descending_perm l).trans (((List.perm_ext_iff_of_nodup hl hl').mpr h).trans
      (descending_perm l').symm)
  refine hperm.eq_of_pairwise (fun a b ha hb hab hba => ?_) (descending_pairwise hkey l)
    (descending_pairwise hkey l')
  exact hinj a b ((descending_perm l).subset ha)
    ((h b).mpr ((descending_perm l').subset hb)) (le_antisymm hba hab)

end

-- ---------------------------------------------------------------------------
-- The rows of a process
-- ---------------------------------------------------------------------------

def TaskRow.startKey (r : TaskRow) : WithBot Int ×ₗ Int := orderKey r.start r.id

theorem TaskRow.startsBefore_iff (a b : TaskRow) :
    a.startsBefore b = true ↔ a.startKey < b.startKey := earlier_iff

def Tables.Lists (t : Tables) (processId : Int) (r : TaskRow) : Prop :=
  r ∈ t.tasks ∧ r.processId = processId ∧ r.flag = true

theorem Tables.mem_valid_iff {t : Tables} :
    r ∈ (t.tasks.filter fun r => r.processId == p && r.flag) ↔ t.Lists p r := by
  simp only [List.mem_filter, Bool.and_eq_true, beq_iff_eq, Lists]

theorem Tables.tasksOf_eq {t t' : Tables} (ht : KeptRows TaskRow.id TaskRow.stored t.tasks)
    (ht' : KeptRows TaskRow.id TaskRow.stored t'.tasks) (h : ∀ r, t.Lists p r ↔ t'.Lists p r) :
    t.tasksOf p = t'.tasksOf p := by
  refine descending_eq_of_mem_iff TaskRow.startsBefore_iff (fun a b ha hb hkey => ?_)
    ((List.Nodup.of_map _ ht.ids).filter _) ((List.Nodup.of_map _ ht'.ids).filter _) fun r => ?_
  · exact ht.eq_of_id (mem_valid_iff.mp ha).1 (mem_valid_iff.mp hb).1 (orderKey_id hkey)
  · rw [mem_valid_iff, mem_valid_iff]
    exact h r

end DependencyGate.History
