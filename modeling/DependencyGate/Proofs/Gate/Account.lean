import DependencyGate.Proofs.Exchanges
import DependencyGate.Proofs.Gate.Polls

/-!
# What polls read and write

All calls of a poll are those that the evaluations of its visits make, one after the
other, and of the two kinds of entry that the gate itself writes into the journal one
tells of the verdicts that it remembers. `Accounts` says so of any stretch of a run.
-/

namespace DependencyGate

open Json (Value)
open Time (Moment)

def Journal.Entry.tellsResolved (e : Journal.Entry) : Bool :=
  e.part = .gate && "Dependent item ".toList.isPrefixOf e.message.toList

namespace Gate

def resolvedEntry (entry : Value × Verdict) : Journal.Entry :=
  ⟨.info, .gate, resolvedText entry.1 entry.2⟩

theorem resolvedText_eq (key : Value) (v : Verdict) :
    resolvedText key v = "Dependent item " ++ key.plain ++ " resolved: " ++ v.name := rfl

theorem tellsResolved_resolvedEntry (entry : Value × Verdict) :
    (resolvedEntry entry).tellsResolved = true := by
  have hprefix : "Dependent item ".toList <+: (resolvedText entry.1 entry.2).toList := by
    simp only [resolvedText_eq, String.toList_append, List.append_assoc]
    exact List.prefix_append _ _
  exact Bool.and_eq_true_iff.mpr ⟨rfl, List.isPrefixOf_iff_prefix.mpr hprefix⟩

theorem tellsResolved_finishedText (r : Relation) (v : Verdict) :
    Journal.Entry.tellsResolved ⟨.info, .gate, finishedText r v⟩ = false := by
  cases r <;> cases v <;> decide +kernel

theorem tellsResolved_of_part {e : Journal.Entry} (h : e.part ≠ .gate) :
    e.tellsResolved = false := by
  simp [Journal.Entry.tellsResolved, h]

section
variable {σ : Type}

/-- Of two worlds the later one differs by what these visits read and write. -/
structure Accounts (c : Collaborators σ) (w w' : World σ) (vs : List (Visit σ)) : Prop where
  calls : w'.calls = w.calls ++ vs.flatMap fun v => v.calls c
  journal : ∃ written, w'.journal = w.journal ++ written ∧
    written.filter (·.tellsResolved) = (Visit.finals vs).map resolvedEntry

namespace Accounts

variable {c : Collaborators σ} {w w₁ w₂ : World σ}

theorem refl (w : World σ) : Accounts c w w [] :=
  ⟨(List.append_nil _).symm, [], (List.append_nil _).symm, rfl⟩

theorem trans (h : Accounts c w w₁ xs) (h' : Accounts c w₁ w₂ ys) : Accounts c w w₂ (xs ++ ys) := by
  obtain ⟨written, hw, hf⟩ := h.journal
  obtain ⟨more, hm, hf'⟩ := h'.journal
  refine ⟨by rw [h'.calls, h.calls, List.flatMap_append, List.append_assoc],
    written ++ more, by rw [hm, hw, List.append_assoc], ?_⟩
  rw [List.filter_append, hf, hf', Visit.finals_append, List.map_append]

theorem evaluated {item : Item} (he : evaluate c item t w = (outcome, w₁)) :
    w₁.calls = w.calls ++ Visit.calls c ⟨item, t, w, outcome⟩ ∧
      ∃ written, w₁.journal = w.journal ++ written ∧
        written.filter (·.tellsResolved) = [] := by
  obtain ⟨hcalls, ⟨written, hj, hp⟩, _⟩ := (Visit.evaluated c ⟨item, t, w, outcome⟩).1
  simp only [he] at hcalls hj
  refine ⟨hcalls, written, hj, List.filter_eq_nil_iff.mpr fun e hmem => ?_⟩
  simp [tellsResolved_of_part (hp e hmem)]

theorem answered {item : Item} (he : evaluate c item t w = (.ok v, w₁)) (g : Gate) :
    Accounts c w (record item v (g, w₁)).2 [⟨item, t, w, .ok v⟩] := by
  obtain ⟨hcalls, written, hj, hquiet⟩ := evaluated he
  unfold record
  split
  · next hv =>
    refine ⟨by simpa [Engine.note] using hcalls, written ++ [resolvedEntry (item.key, v)], ?_, ?_⟩
    · simp [Engine.note, hj, resolvedEntry]
    · simp [hquiet, tellsResolved_resolvedEntry, Visit.finals, Visit.final?, hv]
  · next hv =>
    refine ⟨by simpa using hcalls, written, hj, ?_⟩
    simp [hquiet, Visit.finals, Visit.final?, hv]

theorem faulted {item : Item} (he : evaluate c item t w = (.error f, w₁)) :
    Accounts c w w₁ [⟨item, t, w, .error f⟩] := by
  obtain ⟨hcalls, written, hj, hquiet⟩ := evaluated he
  refine ⟨by simpa using hcalls, written, hj, ?_⟩
  simp [hquiet, Visit.finals, Visit.final?]

theorem concluded (c : Collaborators σ) (result : Except Fault (List Verdict))
    (s : Gate × World σ) : Accounts c s.2 (conclude result s).2 [] := by
  unfold conclude
  split
  · exact .refl _
  · simp only
    split
    · refine ⟨by simp [Engine.note], [⟨.info, .gate, finishedText s.1.relation _⟩], rfl, ?_⟩
      simp [tellsResolved_finishedText]
    · exact .refl _

end Accounts

-- ---------------------------------------------------------------------------
-- Passes and polls
-- ---------------------------------------------------------------------------

variable {c : Collaborators σ} {items : List Item} {s s' : Gate × World σ}

theorem Pass.accounts (h : Pass (evaluate c) t items s vs result s') :
    Accounts c s.2 s'.2 vs := by
  induction h with
  | done => exact .refl _
  | cached _ _ ih => exact ih
  | visited _ he _ ih => exact (Accounts.answered he _).trans ih
  | faulted _ he => exact .faulted he

theorem Pass.exchanges (h : Pass (evaluate c) t items s vs result s')
    (hk : ∀ item ∈ items, item.key.isKey = true) (past : List Exchange) :
    resolveItemsWith (evaluate c.watched) t items (s.1, s.2.watched past) =
      (result, s'.1, s'.2.watched (past ++ vs.flatMap fun v => v.exchanges c)) := by
  induction h generalizing past with
  | done =>
    rw [List.flatMap_nil, List.append_nil]
    rfl
  | @cached item items s v vs result s' hc _ ih =>
    obtain ⟨hitem, hrest⟩ := List.forall_mem_cons.mp hk
    rw [resolveItemsWith_cons, resolveItemWith_cached (s := (s.1, s.2.watched past)) hitem hc]
    simp only [ih hrest]
  | @visited item items s v w vs result s' hc he _ ih =>
    obtain ⟨hitem, hrest⟩ := List.forall_mem_cons.mp hk
    have hwatched := (Visit.evaluated c ⟨item, t, s.2, .ok v⟩).2 past
    simp only [he] at hwatched
    rw [resolveItemsWith_cons, resolveItemWith_fresh (s := (s.1, s.2.watched past)) hitem hc]
    simp only [hwatched, record_watched, ih hrest, List.flatMap_cons, List.append_assoc]
  | @faulted item items s f w hc he =>
    obtain ⟨hitem, _⟩ := List.forall_mem_cons.mp hk
    have hwatched := (Visit.evaluated c ⟨item, t, s.2, .error f⟩).2 past
    simp only [he] at hwatched
    rw [resolveItemsWith_cons, resolveItemWith_fresh (s := (s.1, s.2.watched past)) hitem hc]
    simp only [hwatched, List.flatMap_cons, List.flatMap_nil, List.append_nil]

theorem poll_accounts (c : Collaborators σ) (t : Moment) (hk : Keyed s.1.items) :
    Accounts c s.2 (poll c t s).2.2 (visits (evaluate c) [.poll t] s) := by
  cases hf : s.1.isFinished with
  | true =>
    rw [visits_poll_finished _ t hf, poll, pollWith_finished hf]
    exact .refl _
  | false =>
    obtain ⟨result, s', hp, hrun⟩ := pollWith_pass (evaluate c) t hk hf
    rw [poll, hrun]
    simpa using hp.accounts.trans (.concluded c result s')

/-- Watched collaborators take down the exchanges of a poll's visits. -/
theorem poll_exchanges (c : Collaborators σ) (t : Moment) (hk : Keyed s.1.items) :
    (poll c.watched t (s.1, s.2.watched [])).2.2.state.seen =
      (visits (evaluate c) [.poll t] s).flatMap fun v => v.exchanges c := by
  cases hf : s.1.isFinished with
  | true =>
    rw [visits_poll_finished _ t hf, poll, pollWith_finished (s := (s.1, s.2.watched [])) hf]
    rfl
  | false =>
    obtain ⟨result, s', hp, _⟩ := visits_compute (evaluate c) t hk
    have hrel : s'.1.relation = s.1.relation := by rw [hp.gate_eq]
    rw [poll, pollWith_open (s := (s.1, s.2.watched [])) hf,
      computeOverallWith_eq (evaluate c.watched) t (hp.exchanges hk.usable []) hrel,
      conclude_watched, visits_poll _ t hf]
    rfl

theorem polls_accounts (c : Collaborators σ) (times : List Moment) (hs : Sound s.1) :
    Accounts c s.2 (run (evaluate c) (polls times) s).2 (visits (evaluate c) (polls times) s) := by
  induction times generalizing s with
  | nil => exact .refl _
  | cons t rest ih =>
    rw [visits_cons _ t rest hs]
    exact (poll_accounts c t hs.keyed).trans (ih (pollWith_sound _ t hs).1)

end
end Gate
end DependencyGate
