import DependencyGate.Proofs.Gate.Account

/-!
# Interrupted polls

A fault that a collaborator raises in the middle of a poll comes out of it as it is
reported for the call. The poll leaves the gate as it was but for the verdicts that
became final before the item at which it stopped.
-/

namespace DependencyGate

theorem Keyed.apart (h : Keyed (before ++ rest)) (ha : a ∈ before) (hb : b ∈ rest) :
    a.key.sameKey b.key = false :=
  (List.pairwise_append.mp h.distinct).2.2 a ha b hb

namespace Gate

open Time (Moment)

variable {σ : Type} {c : Collaborators σ} {s s' : Gate × World σ}

theorem Pass.outcome_of_fault {items : List Item} (h : Pass (evaluate c) t items s vs result s')
    (hv : visit ∈ vs) (hx : ⟨call, some e⟩ ∈ visit.exchanges c) :
    visit.outcome = .error (call.reported visit.item e) := by
  obtain ⟨hreference, houtcome⟩ := h.outcome_eq hv
  obtain ⟨_, _, _, hresult⟩ := (visit.evaluated c).1.ended.of_fault hx
  rw [houtcome, ← hreference, hresult]

theorem Reach.of_error {g : Gate} {items : List Item} {vs : List (Visit σ)} {v : Visit σ}
    {result : Except Fault α} (h : Reach g items vs result) (hv : v ∈ vs)
    (he : v.outcome = .error f) :
    result = .error f ∧ ∃ before after earlier, items = before ++ v.item :: after ∧
      vs = earlier ++ [v] ∧ earlier.map (·.item) = before.filter g.isOpen ∧
      ∀ u ∈ earlier, u.Answered := by
  have hfault : ¬ v.Answered := fun ⟨verdict, hok⟩ => by
    rw [he] at hok
    cases hok
  cases result with
  | ok a => exact absurd (h.2 v hv) hfault
  | error f' =>
    obtain ⟨before, item, after, earlier, last, hitems, _, rfl, hb, ha, rfl, hlast⟩ := h
    rcases List.mem_append.mp hv with hv | hv
    · exact absurd (ha v hv) hfault
    · cases List.mem_singleton.mp hv
      rw [hlast] at he
      cases he
      exact ⟨rfl, before, after, earlier, hitems, rfl, hb, ha⟩

theorem finals_after {items : List Item} {earlier : List (Visit σ)} {g : Gate}
    (hk : Keyed (before ++ items)) (he : earlier.map (·.item) = before.filter g.isOpen)
    (ho : other ∈ items) : known? (Visit.finals earlier) other.key = none := by
  rw [known?, Option.map_eq_none_iff, List.find?_eq_none]
  intro entry hentry
  obtain ⟨v, hv, hkey, _⟩ := Visit.of_mem_finals hentry
  have hbefore : v.item ∈ before.filter g.isOpen := he ▸ List.mem_map_of_mem hv
  rw [← hkey, hk.apart (List.mem_filter.mp hbefore).1 ho]
  simp

/-- Where a poll stops at which a call raises a fault, and what it leaves. -/
theorem poll_stops (hs : Sound s.1) (hv : v ∈ visits (evaluate c) [.poll t] s)
    (hx : ⟨call, some e⟩ ∈ v.exchanges c) :
    (poll c t s).1 = .error (call.reported v.item e) ∧ s.1.verdict = .waiting ∧
      ∃ before after earlier, s.1.items = before ++ v.item :: after ∧
        visits (evaluate c) [.poll t] s = earlier ++ [v] ∧
        earlier.map (·.item) = before.filter s.1.isOpen ∧ (∀ u ∈ earlier, u.Answered) ∧
        (poll c t s).2.1 = { s.1 with settled := s.1.settled ++ Visit.finals earlier } := by
  cases hf : s.1.isFinished with
  | true =>
    rw [visits_poll_finished (evaluate c) t hf] at hv
    cases hv
  | false =>
    obtain ⟨result, s', hp, hpoll⟩ := pollWith_pass (evaluate c) t hs.keyed hf
    have houtcome := hp.outcome_of_fault hv hx
    obtain ⟨rfl, before, after, earlier, hsplit, hvs, hearlier, hanswered⟩ :=
      (hp.reach hs.keyed).of_error hv houtcome
    have hfinals : Visit.finals (visits (evaluate c) [.poll t] s) = Visit.finals earlier := by
      have hnone : v.final? = none := by rw [Visit.final?, houtcome]
      rw [hvs, Visit.finals_append, Visit.finals_cons, hnone]
      simp
    rw [poll, hpoll]
    refine ⟨rfl, Verdict.isFinal_eq_false_iff.mp hf, before, after, earlier, hsplit, hvs, hearlier,
      hanswered, ?_⟩
    rw [← hfinals]
    exact hp.gate_eq

def lost : List (Except Fault Status) :=
  [.ok .runningExecution, .ok .runningExecution, .ok .success,
    .error (.foreign (.raised .connection "down"))]

end Gate
end DependencyGate
