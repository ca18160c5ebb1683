import DependencyGate.Proofs.Gate.Run

/-!
# Runs of polls

A gate that is only ever polled remembers the final verdicts of its visits, in the order
of the visits, and nothing else (`polls_settled`). So what was taken down on the way tells
what the gate knows, also where a poll ended in a fault.
-/

namespace DependencyGate.Gate

open Time (Moment)

variable {σ : Type} {ev : Evaluator σ} {s : Gate × World σ}

def polls (times : List Moment) : List (Action σ) := times.map .poll

@[simp] theorem polls_append (xs ys : List Moment) :
    (polls (xs ++ ys) : List (Action σ)) = polls xs ++ polls ys := List.map_append

theorem run_append (ev : Evaluator σ) (xs ys : List (Action σ)) (s : Gate × World σ) :
    run ev (xs ++ ys) s = run ev ys (run ev xs s) := List.foldl_append

-- ---------------------------------------------------------------------------
-- One poll
-- ---------------------------------------------------------------------------

/-- A poll is a pass and its conclusion, unless the gate is finished. -/
theorem pollWith_pass (ev : Evaluator σ) (t : Moment) (hk : Keyed s.1.items)
    (hf : s.1.isFinished = false) :
    ∃ result s', Pass ev t s.1.items s (visits ev [.poll t] s) result s' ∧
      pollWith ev t s =
        (result.map fun verdicts => (s.1.relation.combine verdicts).isFinal,
          conclude result s') := by
  obtain ⟨result, s', hp, hrun⟩ := visits_compute ev t hk
  refine ⟨result, s', visits_poll ev t hf ▸ hp, ?_⟩
  rw [pollWith_open hf, hrun]
  cases result <;> rfl

theorem pollWith_watched (ev : Evaluator σ) (t : Moment) (hk : Keyed s.1.items)
    (past : List (Visit σ)) :
    pollWith ev.watched t (s.1, s.2.watched past) =
      ((pollWith ev t s).1, (pollWith ev t s).2.1,
        (pollWith ev t s).2.2.watched (past ++ visits ev [.poll t] s)) := by
  cases hf : s.1.isFinished with
  | true =>
    rw [pollWith_finished (s := (s.1, s.2.watched past)) hf, pollWith_finished hf,
      visits_poll_finished ev t hf, List.append_nil]
  | false =>
    obtain ⟨vs, result, s', _, hrun, hwatched⟩ := computeOverallWith_pass ev t hk
    have hv : visits ev [.compute t] s = vs :=
      visits_eq fun past => congrArg Prod.snd (hwatched past)
    rw [pollWith_open (s := (s.1, s.2.watched past)) hf, pollWith_open hf, hrun, hwatched past,
      visits_poll ev t hf, hv]

theorem conclude_settled (result : Except Fault (List Verdict)) (s : Gate × World σ) :
    (conclude result s).1.settled = s.1.settled := by
  cases result <;> rfl

theorem pollWith_settled (ev : Evaluator σ) (t : Moment) (hk : Keyed s.1.items) :
    (pollWith ev t s).2.1.settled = s.1.settled ++ Visit.finals (visits ev [.poll t] s) ∧
      ∀ v ∈ visits ev [.poll t] s, v.item ∈ s.1.items := by
  cases hf : s.1.isFinished with
  | true => simp [pollWith_finished hf, visits_poll_finished ev t hf]
  | false =>
    obtain ⟨result, s', hp, hrun⟩ := pollWith_pass ev t hk hf
    rw [hrun, conclude_settled, hp.gate_eq]
    exact ⟨rfl, fun v hv => ((hp.reach hk).isOpen hv).1⟩

-- ---------------------------------------------------------------------------
-- Many polls
-- ---------------------------------------------------------------------------

theorem polls_watched (ev : Evaluator σ) (times : List Moment) (hs : Sound s.1)
    (past : List (Visit σ)) :
    run ev.watched (polls times) (s.1, s.2.watched past) =
      ((run ev (polls times) s).1,
        (run ev (polls times) s).2.watched (past ++ visits ev (polls times) s)) := by
  -- Stated with unknown visits first: the induction needs it for every past.
  have hsome : ∃ vs, ∀ past, run ev.watched (polls times) (s.1, s.2.watched past) =
      ((run ev (polls times) s).1, (run ev (polls times) s).2.watched (past ++ vs)) := by
    induction times generalizing s with
    | nil => exact ⟨[], fun past => by rw [List.append_nil]; rfl⟩
    | cons t rest ih =>
      obtain ⟨vs, hvs⟩ := ih (pollWith_sound ev t hs).1
      refine ⟨visits ev [.poll t] s ++ vs, fun past => ?_⟩
      show run ev.watched (polls rest) (pollWith ev.watched t (s.1, s.2.watched past)).2 = _
      rw [pollWith_watched ev t hs.keyed, hvs, List.append_assoc]
      rfl
  obtain ⟨vs, hvs⟩ := hsome
  rw [hvs, visits_eq hvs]

theorem visits_append (ev : Evaluator σ) (xs ys : List Moment) (hs : Sound s.1) :
    visits ev (polls (xs ++ ys)) s =
      visits ev (polls xs) s ++ visits ev (polls ys) (run ev (polls xs) s) := by
  have hs' : Sound (run ev (polls xs) s).1 := (run_sound ev _ hs).1
  rw [visits, polls_append, run_append, polls_watched ev xs hs, polls_watched ev ys hs']
  rfl

theorem visits_cons (ev : Evaluator σ) (t : Moment) (rest : List Moment) (hs : Sound s.1) :
    visits ev (polls (t :: rest)) s =
      visits ev [.poll t] s ++ visits ev (polls rest) (pollWith ev t s).2 :=
  visits_append ev [t] rest hs

/-- After any polls the gate remembers what there was to remember of their visits. -/
theorem polls_settled (ev : Evaluator σ) (times : List Moment) (hs : Sound s.1) :
    (run ev (polls times) s).1.settled =
        s.1.settled ++ Visit.finals (visits ev (polls times) s) ∧
      ∀ v ∈ visits ev (polls times) s, v.item ∈ s.1.items := by
  induction times generalizing s with
  | nil => exact ⟨(List.append_nil _).symm, fun v hv => (List.not_mem_nil hv).elim⟩
  | cons t rest ih =>
    obtain ⟨hs', hext⟩ := pollWith_sound ev t hs
    obtain ⟨hsettled, hitems⟩ := pollWith_settled ev t hs.keyed
    obtain ⟨hrest, hmore⟩ := ih hs'
    rw [hext.items] at hmore
    rw [visits_cons ev t rest hs]
    refine ⟨?_, fun v hv => (List.mem_append.mp hv).elim (hitems v) (hmore v)⟩
    rw [Visit.finals_append, ← List.append_assoc, ← hsettled, ← hrest]
    rfl

theorem polls_mem_settled {times : List Moment} (hs : Sound s.1) (hnew : s.1.settled = [])
    (he : entry ∈ (run ev (polls times) s).1.settled) :
    ∃ item ∈ s.1.items, item.key = entry.1 := by
  obtain ⟨hsettled, hitems⟩ := polls_settled ev times hs
  rw [hsettled, hnew, List.nil_append] at he
  obtain ⟨v, hv, hkey, _⟩ := Visit.of_mem_finals he
  exact ⟨v.item, hitems v hv, hkey⟩

end DependencyGate.Gate
