import DependencyGate.Proofs.Gate.Polls

/-!
# Polling against the whole history

A gate forgets every verdict that is not final and asks for none again that is. A reader
who had kept all evaluations of all polls would, with less trouble, say the same: an item
stands as its first final verdict, and waits if it never had one.
-/

namespace DependencyGate

open Json (Value)

-- ---------------------------------------------------------------------------
-- First final verdicts
-- ---------------------------------------------------------------------------

namespace Visit

variable {σ : Type}

theorem known?_finals {history : List (Visit σ)} {item : Item} (hk : Keyed items)
    (hv : ∀ v ∈ history, v.item ∈ items) (hi : item ∈ items) :
    Gate.known? (finals history) item.key = firstFinal? history item := by
  induction history with
  | nil => rfl
  | cons v rest ih =>
    obtain ⟨hhead, hrest⟩ := List.forall_mem_cons.mp hv
    have hsame : v.item.key.sameKey item.key = decide (v.item = item) := by
      rw [Bool.eq_iff_iff, decide_eq_true_iff]
      exact ⟨hk.eq_of_sameKey hhead hi, fun h => h ▸ sameKey_refl _⟩
    rw [firstFinal?, List.findSome?_cons, ← firstFinal?, ← ih hrest]
    rw [finals_cons, Gate.known?_append]
    cases v.final? with
    | none => simp [Gate.known?]
    | some verdict => by_cases h : v.item = item <;> simp [Gate.known?, hsame, h, sameKey_refl]

end Visit

namespace Gate

open Time (Moment)

theorem known?_of_mem {entries : List (Value × Verdict)}
    (ho : entries.Pairwise fun a b => a.1.sameKey b.1 = false) (he : (key, v) ∈ entries) :
    known? entries key = some v := by
  induction entries with
  | nil => cases he
  | cons entry rest ih =>
    obtain ⟨hhead, hrest⟩ := List.pairwise_cons.mp ho
    rcases List.mem_cons.mp he with rfl | hmem
    · simp [known?, sameKey_refl]
    · have hother := hhead (key, v) hmem
      rw [← ih hrest hmem]
      simp [known?, hother]

theorem mem_of_known? {entries : List (Value × Verdict)} (h : known? entries key = some v) :
    ∃ key', (key', v) ∈ entries ∧ key'.sameKey key = true := by
  obtain ⟨entry, hfind, rfl⟩ := Option.map_eq_some_iff.mp h
  have hsame := List.find?_some hfind
  exact ⟨entry.1, List.mem_of_find?_eq_some hfind, hsame⟩

variable {σ τ : Type}

-- ---------------------------------------------------------------------------
-- What a poll answers
-- ---------------------------------------------------------------------------

theorem computeOverallWith_ok {ev : Evaluator σ} {s : Gate × World σ} (hk : Keyed s.1.items)
    (h : (computeOverallWith ev t s).1 = .ok v) :
    (computeOverallWith ev t s).2.1.verdict = v ∧
      s.1.relation.combine (s.1.items.map (computeOverallWith ev t s).2.1.standing) = v := by
  obtain ⟨vs, result, s', hp, hrun, _⟩ := computeOverallWith_pass ev t hk
  rw [hrun] at h ⊢
  cases result with
  | error f => cases h
  | ok verdicts =>
    cases h
    have hrel : s'.1.relation = s.1.relation := by rw [hp.gate_eq]
    have hv : verdicts = s.1.items.map s'.1.standing := hp.verdicts_eq hk rfl
    refine ⟨?_, ?_⟩
    · rw [← hrel]
      rfl
    · rw [hv]
      rfl

theorem pollWith_ok {ev : Evaluator σ} {s : Gate × World σ} (hs : Sound s.1)
    (h : (pollWith ev t s).1 = .ok b) :
    (pollWith ev t s).2.1.verdict =
        s.1.relation.combine (s.1.items.map (pollWith ev t s).2.1.standing) ∧
      b = (pollWith ev t s).2.1.verdict.isFinal := by
  cases hf : s.1.isFinished with
  | true =>
    rw [pollWith_finished hf] at h ⊢
    cases h
    exact ⟨(hs.forced hf).symm, hf.symm⟩
  | false =>
    rw [pollWith_open hf] at h ⊢
    cases hv : (computeOverallWith ev t s).1 with
    | error f =>
      rw [hv] at h
      cases h
    | ok v =>
      rw [hv] at h
      cases h
      obtain ⟨hverdict, hcombine⟩ := computeOverallWith_ok hs.keyed hv
      exact ⟨hverdict.trans hcombine.symm, by rw [hverdict]⟩

-- ---------------------------------------------------------------------------
-- Runs of polls
-- ---------------------------------------------------------------------------

theorem polls_settled? {ev : Evaluator σ} {times : List Moment} {s : Gate × World σ}
    (hs : Sound s.1) (hnew : s.1.settled = []) (hi : item ∈ s.1.items) :
    (run ev (polls times) s).1.settled? item.key =
      Visit.firstFinal? (visits ev (polls times) s) item := by
  obtain ⟨hsettled, hitems⟩ := polls_settled ev times hs
  rw [settled?_eq, hsettled, hnew, List.nil_append]
  exact Visit.known?_finals hs.keyed hitems hi

theorem mem_settled_iff {ev : Evaluator σ} {times : List Moment} {s : Gate × World σ}
    (hs : Sound s.1) (hnew : s.1.settled = []) :
    (key, v) ∈ (run ev (polls times) s).1.settled ↔
      ∃ item ∈ s.1.items, item.key = key ∧
        Visit.firstFinal? (visits ev (polls times) s) item = some v := by
  have hs' := (run_sound ev (polls times) hs).1
  constructor
  · intro he
    obtain ⟨item, hi, rfl⟩ := polls_mem_settled hs hnew he
    have hfound := known?_of_mem hs'.once he
    exact ⟨item, hi, rfl, by rw [← polls_settled? hs hnew hi, settled?_eq, hfound]⟩
  · rintro ⟨item, hi, rfl, hfirst⟩
    rw [← polls_settled? hs hnew hi] at hfirst
    obtain ⟨key', he, hsame⟩ := mem_of_known? hfirst
    obtain ⟨other, ho, rfl⟩ := polls_mem_settled hs hnew he
    rw [hs.keyed.eq_of_sameKey ho hi hsame] at he
    exact he

/-- Whatever the evaluator answers or raises, and however often it changes its mind: a poll
of a new gate that was polled before and returns now gives the combination of the first
final verdicts in the whole history, aborted polls included, and these are what the gate
remembers. -/
theorem polls_refine_history {c : Collaborators τ} {d : Declaration}
    (hmake : make c d w₀ = (.ok g₀, w₁)) (ev : Evaluator σ) (w : World σ) (times : List Moment)
    (t : Moment) :
    let s := run ev (polls times) (g₀, w)
    let s' := (pollWith ev t s).2
    let history := visits ev (polls (times ++ [t])) (g₀, w)
    ∀ b, (pollWith ev t s).1 = .ok b →
      (∃ r, d.relation = .known r ∧ s'.1.verdict =
        r.combine (d.items.map fun item => (Visit.firstFinal? history item).getD .waiting)) ∧
      (b = true ↔ s'.1.verdict.isFinal = true) ∧
      (∀ item ∈ d.items, s'.1.settled? item.key = Visit.firstFinal? history item) ∧
      ∀ key v, (key, v) ∈ s'.1.settled ↔
        ∃ item ∈ d.items, item.key = key ∧ Visit.firstFinal? history item = some v := by
  intro s s' history b hpoll
  have hs₀ : Sound g₀ := make_sound hmake
  obtain ⟨hs, hext⟩ := run_sound ev (polls times) (s := (g₀, w)) hs₀
  have hlast : run ev (polls (times ++ [t])) (g₀, w) = s' := by
    rw [polls_append, run_append]
    rfl
  obtain ⟨_, r, hr, hg₀⟩ := make_ok hmake
  have hitems : g₀.items = d.items := by rw [hg₀]
  have hnew : g₀.settled = [] := make_settled hmake
  obtain ⟨hverdict, hb⟩ := pollWith_ok hs hpoll
  have hknown : ∀ item ∈ d.items, s'.1.settled? item.key = Visit.firstFinal? history item :=
    fun item hi => by rw [← hlast, polls_settled? (s := (g₀, w)) hs₀ hnew (hitems ▸ hi)]
  refine ⟨⟨r, hr, ?_⟩, by rw [hb], hknown, fun key v => ?_⟩
  · have hstanding : ∀ item ∈ d.items,
        s'.1.standing item = (Visit.firstFinal? history item).getD .waiting := fun item hi => by
      rw [standing, hknown item hi]
    have hrel : g₀.relation = r := by rw [hg₀]
    rw [hverdict, hext.items, hext.relation, ← List.map_congr_left hstanding, ← hitems, ← hrel]
  · rw [← hlast, mem_settled_iff (s := (g₀, w)) hs₀ hnew, hitems]

def aborted : List (Except Fault Status) :=
  [.ok .success, .error (.foreign (.raised .connection "down")), .ok .runningExecution,
    .ok .success]

/-- Two items under `all`: the first poll finds that `a` succeeded and ends in a fault at `b`,
the second finds `b` under way, the third finds it done and does not ask for `a` again. -/
theorem polls_refine_history_pair :
    (pollWith (evaluate scripted) default (run (evaluate scripted) (polls [default, default])
        (pairGate .all, pairWorld .all aborted))).1 = .ok true ∧
      (pollWith (evaluate scripted) default (run (evaluate scripted) (polls [default, default])
        (pairGate .all, pairWorld .all aborted))).2.1.verdict.isFinal = true ∧
      (Value.str "a", Verdict.success) ∈
        (pollWith (evaluate scripted) default (run (evaluate scripted) (polls [default, default])
          (pairGate .all, pairWorld .all aborted))).2.1.settled := by
  have hpoll : (pollWith (evaluate scripted) default (run (evaluate scripted)
      (polls [default, default]) (pairGate .all, pairWorld .all aborted))).1 = .ok true := by
    decide +kernel
  obtain ⟨_, hfinal, _, hsettled⟩ := polls_refine_history (make_pair .all aborted)
    (evaluate scripted) (pairWorld .all aborted) [default, default] default true hpoll
  refine ⟨hpoll, hfinal.mp rfl, (hsettled (.str "a") .success).mpr ?_⟩
  exact ⟨_, .head _, rfl, by decide +kernel⟩

end Gate
end DependencyGate
