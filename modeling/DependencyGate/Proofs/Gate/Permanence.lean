import DependencyGate.Proofs.Gate.Run

/-!
# Final verdicts are permanent

Polling a finished gate does nothing, but computing it evaluates the open items again
and overwrites the verdict whatever it was. It is nevertheless the same verdict: a final
one follows from the remembered verdicts alone, and these stay.
-/

namespace DependencyGate.Gate

variable {σ : Type}

/-- In every run of a new gate what is remembered is final and stays, under any key; and
so does the verdict of the gate once it is final, although computing it visits the open
items all over again. -/
theorem run_keeps_final_verdicts {c : Collaborators σ} {d : Declaration}
    (hmake : make c d w₀ = (.ok g₀, w₁)) (before after : List (Action σ)) :
    let s := run (evaluate c) before (g₀, w₁)
    let s' := run (evaluate c) after s
    (∀ key v, s.1.settled? key = some v → v = .success ∨ v = .failed) ∧
      (∀ key v, s.1.settled? key = some v → s'.1.settled? key = some v) ∧
      (s.1.verdict = .success ∨ s.1.verdict = .failed → s'.1.verdict = s.1.verdict) ∧
      ∀ t, Reach s.1 d.items (visits (evaluate c) [.compute t] s) (computeOverall c t s).1 := by
  intro s s'
  have hs : Sound s.1 := (run_sound (evaluate c) before (make_sound hmake)).1
  obtain ⟨_, hext⟩ := run_sound (evaluate c) after hs
  refine ⟨fun key v hc => ?_, fun key v hc => hext.settled? hc, fun hv => ?_, fun t => ?_⟩
  · obtain ⟨entry, he, rfl⟩ := Option.map_eq_some_iff.mp hc
    exact Verdict.isFinal_iff.mp (hs.final entry (List.mem_of_find?_eq_some he))
  · exact hext.verdict (Verdict.isFinal_iff.mpr hv)
  · obtain ⟨result, s₁, hp, hrun⟩ := visits_compute (evaluate c) t hs.keyed
    rw [← run_items hmake (evaluate c) before w₁, computeOverall, hrun]
    have hreach := hp.reach hs.keyed
    cases result <;> exact hreach

def overtaken : List (Except Fault Status) := [.ok .success, .ok .runningExecution, .ok .failure]

/-- One of two alternatives succeeds and the other is under way. The gate is finished, and
computing it again finds that the other has failed, which changes nothing. -/
theorem run_keeps_success :
    (run (evaluate scripted) [.poll default] (pairGate .any, pairWorld .any overtaken)).1.verdict =
        .success ∧
      (run (evaluate scripted) [.compute default] (run (evaluate scripted) [.poll default]
        (pairGate .any, pairWorld .any overtaken))).1.settled? (.str "b") = some .failed ∧
      (run (evaluate scripted) [.compute default] (run (evaluate scripted) [.poll default]
        (pairGate .any, pairWorld .any overtaken))).1.verdict = .success := by
  have hv : (run (evaluate scripted) [.poll default]
      (pairGate .any, pairWorld .any overtaken)).1.verdict = .success := by decide +kernel
  have hkept := (run_keeps_final_verdicts (make_pair .any overtaken)
    [.poll default] [.compute default]).2.2.1
  exact ⟨hv, by decide +kernel, (hkept (.inl hv)).trans hv⟩

end DependencyGate.Gate
