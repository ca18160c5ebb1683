import DependencyGate.Proofs.Matching
import DependencyGate.Proofs.Relation

/-!
# Completions

An open verdict will become one of the two final ones. Several verdicts are decided exactly when
they combine alike however the open ones end, and they are open exactly when both ends are still
possible (`Relation.combine_by_completions`). Which verdicts occur is all that matters: neither
their order nor how often they occur does, and parts may be combined before the whole.
-/

namespace DependencyGate

-- ---------------------------------------------------------------------------
-- Verdicts that occur
-- ---------------------------------------------------------------------------

namespace Relation

variable {r : Relation} {xs ys : List Verdict}

theorem eq_decisive_or_neutral (r : Relation) (hv : v.isFinal = true) :
    v = r.decisive ∨ v = r.neutral := by
  cases r <;> cases v <;> simp_all [decisive, neutral]

@[simp] theorem waiting_ne_decisive (r : Relation) : Verdict.waiting ≠ r.decisive := by
  cases r <;> simp [decisive]

@[simp] theorem neutral_ne_decisive (r : Relation) : r.neutral ≠ r.decisive := by
  cases r <;> simp [neutral, decisive]

@[simp] theorem neutral_ne_waiting (r : Relation) : r.neutral ≠ .waiting := by
  cases r <;> simp [neutral]

theorem combine_eq_decisive_iff : r.combine xs = r.decisive ↔ r.decisive ∈ xs := by
  unfold combine
  split
  · simp [*]
  · split <;> simp [*]

theorem combine_eq_waiting_iff :
    r.combine xs = .waiting ↔ r.decisive ∉ xs ∧ Verdict.waiting ∈ xs := by
  unfold combine
  split
  · simp [*, Ne.symm (waiting_ne_decisive r)]
  · split <;> simp [*]

theorem combine_congr (hd : r.decisive ∈ xs ↔ r.decisive ∈ ys)
    (hw : r.decisive ∉ xs → (Verdict.waiting ∈ xs ↔ Verdict.waiting ∈ ys)) :
    r.combine xs = r.combine ys := by
  unfold combine
  by_cases h : r.decisive ∈ xs
  · rw [if_pos h, if_pos (hd.mp h)]
  · rw [if_neg h, if_neg (mt hd.mpr h)]
    simp only [hw h]

theorem combine_append (r : Relation) (xs ys : List Verdict) :
    r.combine (xs ++ ys) = r.combine [r.combine xs, r.combine ys] := by
  refine combine_congr ?_ ?_
  · simp [eq_comm (a := r.decisive), combine_eq_decisive_iff]
  · intro h
    simp only [List.mem_append, not_or] at h
    simp [eq_comm (a := Verdict.waiting), combine_eq_waiting_iff, h]

end Relation

-- ---------------------------------------------------------------------------
-- Verdicts that end
-- ---------------------------------------------------------------------------

/-- An open verdict ends as any final one, a final one only as itself. -/
def Verdict.EndsAs (v w : Verdict) : Prop := w.isFinal = true ∧ (v.isFinal = true → w = v)

/-- All verdicts have ended, each in its own way. -/
abbrev Completes : List Verdict → List Verdict → Prop := List.Forall₂ Verdict.EndsAs

def Verdict.closedBy (w v : Verdict) : Verdict := if v = .waiting then w else v

theorem Verdict.closedBy_isFinal (hw : w.isFinal = true) (v : Verdict) :
    (closedBy w v).isFinal = true := by
  cases v <;> simp [closedBy, hw]

theorem Verdict.endsAs_closedBy (hw : w.isFinal = true) (v : Verdict) :
    v.EndsAs (closedBy w v) := by
  refine ⟨closedBy_isFinal hw v, ?_⟩
  cases v <;> simp [closedBy]

theorem completes_closedBy (hw : w.isFinal = true) (xs : List Verdict) :
    Completes xs (xs.map (Verdict.closedBy w)) := by
  induction xs with
  | nil => exact .nil
  | cons v rest ih => exact .cons (Verdict.endsAs_closedBy hw v) ih

namespace Relation

variable {r : Relation} {xs ys : List Verdict}

/-- What is decided stays so, however the open verdicts end. -/
theorem combine_of_completes (h : Completes xs ys) (hf : (r.combine xs).isFinal = true) :
    r.combine ys = r.combine xs := by
  -- Each verdict is taken together with what it ends as.
  have hleft : (xs.zip ys).map Prod.fst = xs := List.map_fst_zip h.length_eq.le
  have hright : (xs.zip ys).map Prod.snd = ys := List.map_snd_zip h.length_eq.ge
  have hpairs : r.combine ((xs.zip ys).map Prod.snd) = r.combine ((xs.zip ys).map Prod.fst) := by
    refine combine_eq_of_isFinal ?_ (by rw [hleft]; exact hf)
    rintro ⟨v, w⟩ hvw hv
    exact ((List.forall₂_iff_zip.mp h).2 hvw).2 hv
  rwa [hleft, hright] at hpairs

theorem combine_closedBy (h : r.combine xs = .waiting) (hw : w.isFinal = true) :
    r.combine (xs.map (Verdict.closedBy w)) = w := by
  obtain ⟨hd, hopen⟩ := combine_eq_waiting_iff.mp h
  have hended : w ∈ xs.map (Verdict.closedBy w) := List.mem_map.mpr ⟨_, hopen, rfl⟩
  rcases r.eq_decisive_or_neutral hw with rfl | rfl
  · exact combine_eq_decisive_iff.mpr hended
  · have hd' : r.decisive ∉ xs.map (Verdict.closedBy r.neutral) := by
      intro hmem
      obtain ⟨v, hv, hvd⟩ := List.mem_map.mp hmem
      unfold Verdict.closedBy at hvd
      split at hvd
      · exact neutral_ne_decisive r hvd
      · exact hd (hvd ▸ hv)
    have hw' : Verdict.waiting ∉ xs.map (Verdict.closedBy r.neutral) := by
      intro hmem
      obtain ⟨v, -, hv⟩ := List.mem_map.mp hmem
      have hfinal := Verdict.closedBy_isFinal hw v
      rw [hv] at hfinal
      cases hfinal
    rw [combine, if_neg hd', if_neg hw']

/-- A final verdict is the one of all completions, an open one has completions of both kinds.
Parts can be combined first, and only which verdicts occur matters. -/
theorem combine_by_completions (r : Relation) (xs : List Verdict) :
    (∀ v, v.isFinal = true →
      (r.combine xs = v ↔ ∀ ys, Completes xs ys → r.combine ys = v)) ∧
    (r.combine xs = .waiting ↔
      (∃ ys, Completes xs ys ∧ r.combine ys = .success) ∧
        ∃ ys, Completes xs ys ∧ r.combine ys = .failed) ∧
    (∀ ys, r.combine (xs ++ ys) = r.combine [r.combine xs, r.combine ys]) ∧
    (∀ ys, ys.Perm xs → r.combine ys = r.combine xs) ∧
    ∀ ys, ys ⊆ xs → xs ⊆ ys → r.combine ys = r.combine xs := by
  have hopen : r.combine xs = .waiting → ∀ w, w.isFinal = true →
      ∃ ys, Completes xs ys ∧ r.combine ys = w := fun h w hw =>
    ⟨_, completes_closedBy hw xs, combine_closedBy h hw⟩
  have hdecided : r.combine xs ≠ .waiting → ∀ ys, Completes xs ys → r.combine ys = r.combine xs :=
    fun h ys hys => combine_of_completes hys (by simpa [Verdict.isFinal] using h)
  have hoccur : ∀ ys, ys ⊆ xs → xs ⊆ ys → r.combine ys = r.combine xs := fun ys hys hxs =>
    combine_congr ⟨@hys _, @hxs _⟩ fun _ => ⟨@hys _, @hxs _⟩
  refine ⟨?_, ?_, r.combine_append xs, fun ys h => hoccur ys h.subset h.symm.subset, hoccur⟩
  · intro v hv
    by_cases h : r.combine xs = .waiting
    · -- Nothing that holds of all completions can be said while both ends are possible.
      obtain ⟨ys, hys, hsuccess⟩ := hopen h .success rfl
      obtain ⟨zs, hzs, hfailed⟩ := hopen h .failed rfl
      constructor
      · intro hxs
        rw [← hxs, h] at hv
        cases hv
      · intro hall
        have hsame : Verdict.success = .failed :=
          (hsuccess.symm.trans (hall ys hys)).trans ((hall zs hzs).symm.trans hfailed)
        cases hsame
    · constructor
      · rintro rfl
        exact hdecided h
      · intro hall
        have hys := completes_closedBy (w := .success) rfl xs
        exact (hdecided h _ hys).symm.trans (hall _ hys)
  · constructor
    · intro h
      exact ⟨hopen h .success rfl, hopen h .failed rfl⟩
    · rintro ⟨⟨ys, hys, hsuccess⟩, zs, hzs, hfailed⟩
      by_contra h
      have hsame : Verdict.success = .failed :=
        (hsuccess.symm.trans (hdecided h ys hys)).trans ((hdecided h zs hzs).symm.trans hfailed)
      cases hsame

/-- A success decides for one that must hold, whatever the open verdict ends as; where all must hold
it does not. -/
theorem combine_beside_success :
    (∀ ys, Completes [.waiting, .success] ys → any.combine ys = .success) ∧
      ∃ ys, Completes [.waiting, .success] ys ∧ all.combine ys = .failed :=
  ⟨((combine_by_completions any [.waiting, .success]).1 .success rfl).mp (by decide),
    ((combine_by_completions all [.waiting, .success]).2.1.mp (by decide)).2⟩

end Relation
end DependencyGate
