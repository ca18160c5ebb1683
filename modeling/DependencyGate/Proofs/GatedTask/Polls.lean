import DependencyGate.GatedTask
import DependencyGate.Proofs.Gate.History
import DependencyGate.Proofs.Matching

/-!
# Polls of a task

A poll of a task is a poll of each of its gates. The task has no verdict before all of its gates
are finished, even if their relation is decided by fewer; then it has the one they combine to,
and keeps it (`Consistent.after`, `Consistent.after_keeps_verdict`).
-/

namespace DependencyGate

open Time (Moment)

variable {σ : Type} {c : Collaborators σ}

theorem Relation.combine_isFinal {r : Relation} {vs : List Verdict}
    (h : ∀ v ∈ vs, v.isFinal = true) : (r.combine vs).isFinal = true := by
  unfold combine
  split
  · exact r.decisive_isFinal
  · rw [if_neg fun hw => by cases h _ hw]
    cases r <;> rfl

-- ---------------------------------------------------------------------------
-- Gates in a row
-- ---------------------------------------------------------------------------

theorem Gate.poll_true_iff {g g' : Gate} (hs : g.Sound)
    (h : Gate.poll c t (g, w) = (result, g', w')) :
    result = .ok true ↔ g'.isFinished = true := by
  change Gate.pollWith (evaluate c) t (g, w) = _ at h
  cases hf : g.isFinished with
  | true =>
    rw [pollWith_finished (s := (g, w)) hf] at h
    cases h
    exact iff_of_true rfl hf
  | false =>
    obtain ⟨passed, s', hp, hrun⟩ := pollWith_pass (s := (g, w)) (evaluate c) t hs.keyed hf
    rw [hrun, Prod.mk.injEq] at h
    obtain ⟨rfl, h⟩ := h
    have hgate : g' = (conclude passed s').1 := congrArg Prod.fst h.symm
    have hrelation : s'.1.relation = g.relation := by rw [hp.gate_eq]
    cases passed with
    | error f =>
      -- The verdict is as before the poll.
      have hsame : g'.verdict = g.verdict := by
        rw [hgate, conclude, hp.gate_eq]
      rw [isFinished, hsame]
      exact iff_of_false (by simp [Except.map]) (Bool.eq_false_iff.mp hf)
    | ok verdicts =>
      have hverdict : g'.verdict = g.relation.combine verdicts := by
        rw [hgate, ← hrelation]
        rfl
      rw [isFinished, hverdict]
      exact ⟨fun hfinal => Except.ok.inj hfinal, congrArg Except.ok⟩

theorem Gate.poll_stays {S : σ → Prop} {g : Gate} (hs : g.Sound)
    (hev : ∀ item w, S w.state → S (evaluate c item t w).2.state) (hw : S w.state) :
    S (Gate.poll c t (g, w)).2.2.state ∧ ∀ f, (Gate.poll c t (g, w)).1 = .error f →
      ∃ item ∈ g.items, ∃ w₁, S w₁.state ∧ (evaluate c item t w₁).1 = .error f := by
  change S (Gate.pollWith (evaluate c) t (g, w)).2.2.state ∧
    ∀ f, (Gate.pollWith (evaluate c) t (g, w)).1 = .error f → _
  cases hf : g.isFinished with
  | true =>
    rw [pollWith_finished (s := (g, w)) hf]
    refine ⟨hw, ?_⟩
    rintro f ⟨⟩
  | false =>
    obtain ⟨passed, s', hp, hrun⟩ := pollWith_pass (s := (g, w)) (evaluate c) t hs.keyed hf
    obtain ⟨hs', hstarts⟩ := hp.stays hev hw
    have hreach := hp.reach hs.keyed
    rw [hrun]
    cases passed with
    | ok verdicts =>
      constructor
      · unfold conclude
        dsimp only
        split <;> exact hs'
      · rintro f ⟨⟩
    | error f =>
      refine ⟨hs', ?_⟩
      rintro _ ⟨⟩
      -- The last visit ended in the fault.
      obtain ⟨before, item, after, earlier, last, hitems, -, hvisits, -, -, rfl, hfault⟩ := hreach
      have hlast := List.mem_append_right earlier (List.mem_singleton_self last)
      rw [← hvisits] at hlast
      exact ⟨last.item, hitems ▸ List.mem_append_right before List.mem_cons_self, last.start,
        hstarts last hlast, (hp.outcome_eq hlast).2.symm.trans hfault⟩

theorem pollGates_cons {gates : List Gate}
    (h : pollGates c t (g :: rest) w = (result, gates, w')) :
    ∃ polled g' w₁, Gate.poll c t (g, w) = (polled, g', w₁) ∧
      ((∃ f, polled = .error f ∧ result = .error f ∧ gates = g' :: rest) ∨
        ∃ b others rest', polled = .ok b ∧ pollGates c t rest w₁ = (others, rest', w') ∧
          result = others.map (b :: ·) ∧ gates = g' :: rest') := by
  unfold pollGates at h
  split at h
  next f g' w₁ hg =>
    cases h
    exact ⟨_, g', _, hg, .inl ⟨f, rfl, rfl, rfl⟩⟩
  next b g' w₁ hg =>
    refine ⟨_, g', w₁, hg, .inr ?_⟩
    split at h
    next others rest' w₂ hrest =>
      cases h
      exact ⟨b, _, rest', rfl, hrest, rfl, rfl⟩
    next f rest' w₂ hrest =>
      cases h
      exact ⟨b, _, rest', rfl, hrest, rfl, rfl⟩

theorem pollGates_polled {gates : List Gate} (h : pollGates c t gates w = (result, gates', w')) :
    List.Forall₂ (fun g g' => (∃ w₁, (Gate.poll c t (g, w₁)).2.1 = g') ∨
      g' = g ∧ ∃ f, result = .error f) gates gates' := by
  induction gates generalizing w result gates' with
  | nil =>
    cases h
    exact .nil
  | cons g rest ih =>
    obtain ⟨polled, g', w₁, hpoll, hrest⟩ := pollGates_cons h
    have hfirst : (Gate.poll c t (g, w)).2.1 = g' := by rw [hpoll]
    obtain ⟨f, -, rfl, rfl⟩ | ⟨b, others, rest', -, hrest, rfl, rfl⟩ := hrest
    · exact .cons (.inl ⟨w, hfirst⟩) (List.forall₂_same.mpr fun _ _ => .inr ⟨rfl, f, rfl⟩)
    · refine .cons (.inl ⟨w, hfirst⟩) ((ih hrest).imp fun g g' => Or.imp_right ?_)
      rintro ⟨rfl, f, rfl⟩
      exact ⟨rfl, f, rfl⟩

theorem pollGates_isOk_cons (c : Collaborators σ) (t : Moment) (g : Gate) (rest : List Gate)
    (w : World σ) : (pollGates c t (g :: rest) w).1.isOk =
      ((Gate.poll c t (g, w)).1.isOk &&
        (pollGates c t rest (Gate.poll c t (g, w)).2.2).1.isOk) := by
  rw [pollGates]
  match Gate.poll c t (g, w) with
  | (.error f, g', w') => rfl
  | (.ok b, g', w') =>
    dsimp only
    match pollGates c t rest w' with
    | (.error f, rest', w₁) => rfl
    | (.ok others, rest', w₁) => rfl

/-- A poll of these gates reaches the gate in a place, as those before it raise nothing. -/
def reaches (c : Collaborators σ) (t : Moment) (gates : List Gate) (w : World σ) (k : Nat) : Bool :=
  (pollGates c t (gates.take k) w).1.isOk

theorem reaches_succ (c : Collaborators σ) (t : Moment) (g : Gate) (rest : List Gate)
    (w : World σ) (k : Nat) : reaches c t (g :: rest) w (k + 1) =
      ((Gate.poll c t (g, w)).1.isOk && reaches c t rest (Gate.poll c t (g, w)).2.2 k) := by
  rw [reaches, List.take_succ_cons, pollGates_isOk_cons, reaches]

/-- The gates that are reached are polled, the others are left as they were. -/
theorem pollGates_reached {gates : List Gate} (h : pollGates c t gates w = (result, gates', w'))
    (hg : gates[k]? = some g) : ∃ g', gates'[k]? = some g' ∧
      if reaches c t gates w k then ∃ w₁, (Gate.poll c t (g, w₁)).2.1 = g' else g' = g := by
  induction gates generalizing w result gates' k with
  | nil => cases hg
  | cons first rest ih =>
    obtain ⟨polled, first', w₁, hpoll, hrest⟩ := pollGates_cons h
    cases k with
    | zero =>
      cases hg
      refine ⟨first', ?_, ?_⟩
      · obtain ⟨f, -, -, rfl⟩ | ⟨b, others, rest', -, -, -, rfl⟩ := hrest <;> rfl
      · rw [if_pos (show reaches c t (g :: rest) w 0 = true from rfl)]
        exact ⟨w, by rw [hpoll]⟩
    | succ k =>
      rw [reaches_succ, hpoll]
      obtain ⟨f, rfl, -, rfl⟩ | ⟨b, others, rest', rfl, hrest, -, rfl⟩ := hrest
      · exact ⟨g, hg, rfl⟩
      · exact ih hrest hg

theorem reaches_of_returned {gates : List Gate} (h : (pollGates c t gates w).1.isOk = true)
    (k : Nat) : reaches c t gates w k = true := by
  induction gates generalizing w k with
  | nil => rwa [reaches, List.take_nil]
  | cons g rest ih =>
    rw [pollGates_isOk_cons, Bool.and_eq_true] at h
    cases k with
    | zero => rfl
    | succ k => rw [reaches_succ, h.1, ih h.2, Bool.and_self]

theorem pollGates_sound {gates : List Gate} (hs : ∀ g ∈ gates, g.Sound)
    (h : pollGates c t gates w = (result, gates', w')) :
    ∀ g' ∈ gates', g'.Sound ∧ ∃ g ∈ gates, g.Extends g' := by
  intro g' hg'
  obtain ⟨g, hg, ⟨w₁, rfl⟩ | ⟨rfl, -⟩⟩ := exists_of_forall₂ (pollGates_polled h) hg'
  · obtain ⟨hsound, hext⟩ := Gate.pollWith_sound (evaluate c) t (s := (g, w₁)) (hs g hg)
    exact ⟨hsound, g, hg, hext⟩
  · exact ⟨hs g' hg, g', hg, .refl g'⟩

theorem pollGates_all_iff {gates : List Gate} (hs : ∀ g ∈ gates, g.Sound)
    (h : pollGates c t gates w = (result, gates', w')) :
    (∃ finished, result = .ok finished ∧ finished.all id = true) ↔
      ∀ g ∈ gates', g.isFinished = true := by
  induction gates generalizing w result gates' with
  | nil =>
    cases h
    exact iff_of_true ⟨[], rfl, rfl⟩ (List.forall_mem_nil _)
  | cons g rest ih =>
    obtain ⟨hg, hs⟩ := List.forall_mem_cons.mp hs
    obtain ⟨polled, g', w₁, hpoll, ⟨f, rfl, rfl, rfl⟩ | ⟨b, others, rest', rfl, hrest, rfl, rfl⟩⟩ :=
      pollGates_cons h
    · have hopen := mt (Gate.poll_true_iff hg hpoll).mpr nofun
      exact iff_of_false nofun fun hall => hopen (hall g' List.mem_cons_self)
    · have hfirst : b = true ↔ g'.isFinished = true := by
        rw [← Gate.poll_true_iff hg hpoll, Except.ok.injEq]
      rw [List.forall_mem_cons, ← hfirst, ← ih hs hrest]
      cases others with
      | error f => exact iff_of_false nofun nofun
      | ok others => simp [Except.map]

theorem pollGates_of_finished {gates : List Gate} (h : ∀ g ∈ gates, g.isFinished = true)
    (t : Moment) (w : World σ) :
    pollGates c t gates w = (.ok (gates.map fun _ => true), gates, w) := by
  induction gates with
  | nil => rfl
  | cons g rest ih =>
    obtain ⟨hg, hrest⟩ := List.forall_mem_cons.mp h
    have hpoll : Gate.poll c t (g, w) = (.ok true, g, w) :=
      Gate.pollWith_finished (s := (g, w)) hg t
    simp only [pollGates, hpoll, ih hrest, List.map_cons]

/-- The gates of a poll at `t` that ends in a fault. Those before the one that meets it are polled
by themselves, those after it are not polled. -/
def StopsAt (c : Collaborators σ) (t : Moment) (f : Fault) (gates : List Gate) (w : World σ)
    (gates' : List Gate) (w' : World σ) : Prop :=
  ∃ before g after answers before' w₁ g', gates = before ++ g :: after ∧
    pollGates c t before w = (.ok answers, before', w₁) ∧
    Gate.poll c t (g, w₁) = (.error f, g', w') ∧ gates' = before' ++ g' :: after

theorem pollGates_stopsAt {gates : List Gate}
    (h : pollGates c t gates w = (.error f, gates', w')) : StopsAt c t f gates w gates' w' := by
  induction gates generalizing w gates' with
  | nil => cases h
  | cons g rest ih =>
    unfold pollGates at h
    split at h
    next f g' w₁ hg =>
      cases h
      exact ⟨[], g, rest, [], [], w, g', rfl, rfl, hg, rfl⟩
    next b g' w₁ hg =>
      split at h
      next => cases h
      next f rest' w₂ hrest =>
        cases h
        obtain ⟨before, g₁, after, answers, before', w₃, g₁', rfl, hbefore, hstop, rfl⟩ := ih hrest
        refine ⟨g :: before, g₁, after, b :: answers, g' :: before', w₃, g₁', rfl, ?_, hstop, rfl⟩
        simp only [pollGates, hg, hbefore]

namespace GatedTask

-- ---------------------------------------------------------------------------
-- One poll
-- ---------------------------------------------------------------------------

/-- What a poll does to a task, whether it returns or not. -/
theorem poll_eq (c : Collaborators σ) (t : Moment) (task : GatedTask) (w : World σ) :
    ∃ answers polled w₁ w₂, pollGates c t task.gates w = (answers, polled, w₁) ∧
      poll c t (task, w) = (answers.map (·.all id),
        { task with
          gates := polled
          polls := task.polls + 1
          verdict := if answers.map (·.all id) = .ok true then
              task.relation.combine (polled.map (·.verdict))
            else task.verdict }, w₂) := by
  cases hgates : pollGates c t task.gates w with
  | mk answers rest =>
    refine ⟨answers, rest.1, rest.2, (poll c t (task, w)).2.2, rfl, ?_⟩
    simp only [poll, run_bind, TaskRun.update, askGates, TaskRun.task, TaskRun.ofEngine, hgates]
    cases answers with
    | error f => rfl
    | ok finished =>
      simp only [Engine.note, Except.map, Except.ok.injEq, combined]
      cases finished.all id <;> rfl

theorem poll_of_stopped {task : GatedTask} {gates : List Gate}
    (h : pollGates c t task.gates w = (.error f, gates, w')) : poll c t (task, w) =
      (.error f, { task with gates := gates, polls := task.polls + 1 }, w') := by
  simp only [poll, run_bind, TaskRun.update, askGates, h]

structure Consistent (task : GatedTask) : Prop where
  sound : ∀ g ∈ task.gates, g.Sound
  verdict : task.verdict =
    if ∀ g ∈ task.gates, g.isFinished = true then task.combined else .waiting

theorem Consistent.poll {task task' : GatedTask} (hs : task.Consistent)
    (h : poll c t (task, w) = (result, task', w')) :
    task'.Consistent ∧ task'.relation = task.relation ∧
      (result = .ok true ↔ ∀ g ∈ task'.gates, g.isFinished = true) := by
  obtain ⟨answers, polled, w₁, w₂, hgates, hpoll⟩ := poll_eq c t task w
  rw [hpoll] at h
  cases h
  have hpolled := pollGates_sound hs.sound hgates
  have hall : answers.map (·.all id) = .ok true ↔ ∀ g ∈ polled, g.isFinished = true :=
    map_ok.trans (pollGates_all_iff hs.sound hgates)
  refine ⟨⟨fun g hg => (hpolled g hg).1, ?_⟩, rfl, hall⟩
  by_cases hdone : answers.map (·.all id) = .ok true
  · simp only [hdone, if_true, if_pos (hall.mp hdone), combined]
  · -- Gates that were finished before would still be.
    have hopen : ¬ ∀ g ∈ task.gates, g.isFinished = true := fun hbefore =>
      hdone (hall.mpr fun g' hg' => by
        obtain ⟨-, g, hg, hext⟩ := hpolled g' hg'
        exact hext.isFinished (hbefore g hg))
    simp only [if_neg hdone, if_neg (mt hall.mpr hdone)]
    rw [hs.verdict, if_neg hopen]

-- ---------------------------------------------------------------------------
-- Many polls
-- ---------------------------------------------------------------------------

def after (c : Collaborators σ) (times : List Moment) (s : GatedTask × World σ) :
    GatedTask × World σ :=
  times.foldl (fun s t => (poll c t s).2) s

def returned (c : Collaborators σ) : List Moment → GatedTask × World σ → List Moment
  | [], _ => []
  | t :: rest, s => (if (poll c t s).1.isOk then [t] else []) ++ returned c rest (poll c t s).2

def reached (c : Collaborators σ) (k : Nat) : List Moment → GatedTask × World σ → List Moment
  | [], _ => []
  | t :: rest, s =>
    (if reaches c t s.1.gates s.2 k then [t] else []) ++ reached c k rest (poll c t s).2

theorem reached_cons (k : Nat) (t : Moment) (rest : List Moment) (s : GatedTask × World σ) :
    reached c k (t :: rest) s = reached c k [t] s ++ reached c k rest (poll c t s).2 := by
  rw [reached, reached, reached, List.append_nil]

theorem reached_sublist (k : Nat) (times : List Moment) (s : GatedTask × World σ) :
    (reached c k times s).Sublist times := by
  induction times generalizing s with
  | nil => exact .refl _
  | cons t rest ih =>
    rw [reached]
    split
    · exact (ih _).cons_cons t
    · exact (ih _).cons t

theorem isOk_of_poll {task : GatedTask} (h : (poll c t (task, w)).1.isOk = true) :
    (pollGates c t task.gates w).1.isOk = true := by
  obtain ⟨answers, polled, w₁, w₂, hgates, hpoll⟩ := poll_eq c t task w
  rw [hpoll] at h
  rw [hgates]
  cases answers with
  | ok finished => rfl
  | error f => cases h

theorem returned_sublist (k : Nat) (times : List Moment) (s : GatedTask × World σ) :
    (returned c times s).Sublist (reached c k times s) := by
  induction times generalizing s with
  | nil => exact .refl _
  | cons t rest ih =>
    rw [returned, reached]
    refine .append ?_ (ih _)
    split
    next hok => rw [if_pos (reaches_of_returned (isOk_of_poll hok) k)]
    next => exact List.nil_sublist _

theorem Consistent.after {task : GatedTask} (hs : task.Consistent) (c : Collaborators σ)
    (times : List Moment) (w : World σ) :
    (after c times (task, w)).1.Consistent ∧
      (after c times (task, w)).1.relation = task.relation := by
  induction times generalizing task w with
  | nil => exact ⟨hs, rfl⟩
  | cons t rest ih =>
    obtain ⟨hs', hrelation, -⟩ := hs.poll (c := c) (t := t) (w := w) rfl
    obtain ⟨hrest, hrelation'⟩ := ih hs' (GatedTask.poll c t (task, w)).2.2
    exact ⟨hrest, hrelation'.trans hrelation⟩

theorem combined_isFinal {task : GatedTask} (h : ∀ g ∈ task.gates, g.isFinished = true) :
    task.combined.isFinal = true := by
  refine Relation.combine_isFinal fun v hv => ?_
  obtain ⟨g, hg, rfl⟩ := List.mem_map.mp hv
  exact h g hg

theorem poll_of_finished {task : GatedTask} (h : ∀ g ∈ task.gates, g.isFinished = true)
    (t : Moment) (w : World σ) : (poll c t (task, w)).2.1 =
      { task with polls := task.polls + 1, verdict := task.combined } := by
  obtain ⟨answers, polled, w₁, w₂, hgates, hpoll⟩ := poll_eq c t task w
  rw [pollGates_of_finished h] at hgates
  cases hgates
  rw [hpoll]
  simp [Except.map, combined]

theorem Consistent.after_keeps_verdict {task : GatedTask} (hs : task.Consistent)
    (hset : task.verdict ≠ .waiting) (times : List Moment) (w : World σ) :
    (GatedTask.after c times (task, w)).1.verdict = task.verdict := by
  have hdone : ∀ g ∈ task.gates, g.isFinished = true := by
    by_contra hopen
    exact hset (hs.verdict.trans (if_neg hopen))
  have hverdict : task.verdict = task.combined := hs.verdict.trans (if_pos hdone)
  clear hset hs
  induction times generalizing task w with
  | nil => rfl
  | cons t rest ih =>
    have hpoll := poll_of_finished (c := c) hdone t w
    have hdone' : ∀ g ∈ (GatedTask.poll c t (task, w)).2.1.gates, g.isFinished = true := by
      rw [hpoll]
      exact hdone
    have hset : (GatedTask.poll c t (task, w)).2.1.verdict =
        (GatedTask.poll c t (task, w)).2.1.combined := by
      rw [hpoll]
      rfl
    refine (ih (GatedTask.poll c t (task, w)).2.2 hdone' hset).trans ?_
    rw [hpoll]
    exact hverdict.symm

end GatedTask
end DependencyGate
