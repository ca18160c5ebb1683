import DependencyGate.Relation

/-!
# Combined verdicts

A combined verdict that is final does not change when open verdicts under it are
replaced: it was decided by the final ones alone.
-/

namespace DependencyGate

theorem Verdict.isFinal_iff {v : Verdict} : v.isFinal = true ↔ v = .success ∨ v = .failed := by
  cases v <;> simp

theorem Relation.decisive_isFinal (r : Relation) : r.decisive.isFinal = true := by
  cases r <;> rfl

theorem Relation.combine_eq_of_isFinal {r : Relation} {known later : α → Verdict} {xs : List α}
    (hl : ∀ a ∈ xs, (known a).isFinal = true → later a = known a)
    (hf : (r.combine (xs.map known)).isFinal = true) :
    r.combine (xs.map later) = r.combine (xs.map known) := by
  by_cases hd : r.decisive ∈ xs.map known
  · obtain ⟨a, ha, hk⟩ := List.mem_map.mp hd
    have hlater : later a = r.decisive := (hl a ha (hk ▸ r.decisive_isFinal)).trans hk
    have hd' : r.decisive ∈ xs.map later := List.mem_map.mpr ⟨a, ha, hlater⟩
    rw [combine, combine, if_pos hd, if_pos hd']
  · by_cases hw : Verdict.waiting ∈ xs.map known
    · rw [combine, if_neg hd, if_pos hw] at hf
      cases hf
    · have hsame : xs.map later = xs.map known := by
        refine List.map_congr_left fun a ha => hl a ha ?_
        cases hk : known a with
        | waiting => exact absurd (List.mem_map.mpr ⟨a, ha, hk⟩) hw
        | _ => rfl
      rw [hsame]

end DependencyGate
