import DependencyGate.Proofs.GatedTask.Polls
import DependencyGate.Proofs.Indifference

/-!
# Gates of one task

On steady collaborators the gates of a task have nothing to do with each other: each is what the
gate of its declaration alone would be after the polls that reached it (`polls_apart`). The only
fault left is that two ends of different kinds are compared. It ends the poll, and gates after
the one that met it are not polled (`poll_stops_at_mixed_ends`).
-/

namespace DependencyGate

open Json (Value)
open Time (Moment Interval)

variable {σ : Type} {c : Collaborators σ} {supported : String → Bool}
  {calendar : Moment → Value → List Interval} {r : Records}

-- ---------------------------------------------------------------------------
-- A gate alone
-- ---------------------------------------------------------------------------

namespace Gate

/-- The gate is what that of a declaration is after these polls, when it is made and polled by
itself, in whatever world. -/
def Alone (c : Collaborators σ) (times : List Moment) (d : Declaration) (g : Gate) : Prop :=
  ∀ w, ∃ g₀ w₀, make c d w = (.ok g₀, w₀) ∧ (run (evaluate c) (polls times) (g₀, w₀)).1 = g

theorem Alone.sound (h : Alone c times d g) (w : World σ) : g.Sound ∧ g.items = d.items := by
  obtain ⟨g₀, w₀, hmake, rfl⟩ := h w
  exact ⟨(run_sound (evaluate c) _ (make_sound hmake)).1, run_items hmake (evaluate c) _ w₀⟩

theorem alone_of_make (hc : c.Steady supported calendar r) {d : Declaration}
    (h : make c d w = (.ok g, w')) : Alone c [] d g := by
  intro w₁
  have hsame := (hc.make d w₁ w trivial).1
  rw [h] at hsame
  exact ⟨g, (make c d w₁).2, Prod.ext hsame rfl, rfl⟩

theorem Alone.poll (hc : c.Steady supported calendar r) (h : Alone c times d g) (t : Moment)
    (w : World σ) : Alone c (times ++ [t]) d (Gate.poll c t (g, w)).2.1 := by
  intro w₁
  obtain ⟨g₀, w₀, hmake, hrun⟩ := h w₁
  refine ⟨g₀, w₀, hmake, ?_⟩
  rw [polls_append, run_append]
  exact (Indifferent.pollWith hc.evaluate t _ (g, w) hrun).2

end Gate

namespace GatedTask

-- ---------------------------------------------------------------------------
-- New tasks
-- ---------------------------------------------------------------------------

theorem make_ok {p : Parameters} (h : make c p w = (.ok task, w')) :
    ∃ outer gates, p.validate = .ok outer ∧ p.declarations.mapM (Gate.make c) w = (.ok gates, w') ∧
      task = { gates := gates, relation := outer } := by
  unfold make at h
  cases houter : p.validate with
  | error i =>
    rw [houter] at h
    cases h
  | ok outer =>
    rw [houter] at h
    obtain ⟨gates, w₁, hgates, h⟩ := run_bind_ok h
    cases h
    exact ⟨outer, gates, rfl, hgates, rfl⟩

theorem make_sound {p : Parameters} (h : make c p w = (.ok task, w')) :
    ∀ g ∈ task.gates, g.Sound := by
  obtain ⟨_, gates, -, hgates, rfl⟩ := make_ok h
  intro g hg
  obtain ⟨d, -, w₁, w₂, hmake⟩ := exists_of_forall₂ (run_mapM_ok hgates) hg
  exact Gate.make_sound hmake

/-- The gate in each place is as the declaration there is alone after the polls that reached it. -/
structure Apart (c : Collaborators σ) (reached : Nat → List Moment) (ds : List Declaration)
    (gates : List Gate) : Prop where
  length : gates.length = ds.length
  alone : ∀ k d g, ds[k]? = some d → gates[k]? = some g → Gate.Alone c (reached k) d g

theorem Apart.declaration {reached : Nat → List Moment} {gates : List Gate}
    (h : Apart c reached ds gates) (hg : g ∈ gates) : ∃ k, ∃ d ∈ ds, Gate.Alone c (reached k) d g := by
  obtain ⟨k, hk, rfl⟩ := List.mem_iff_getElem.mp hg
  have hd : k < ds.length := h.length ▸ hk
  exact ⟨k, ds[k], List.getElem_mem hd,
    h.alone k _ _ (List.getElem?_eq_getElem hd) (List.getElem?_eq_getElem hk)⟩

theorem make_apart (hc : c.Steady supported calendar r) {p : Parameters}
    (h : make c p w = (.ok task, w')) :
    p.relation = .known task.relation ∧ task.Consistent ∧
      Apart c (fun _ => []) p.declarations task.gates := by
  have hsound := make_sound h
  obtain ⟨outer, gates, houter, hgates, rfl⟩ := make_ok h
  obtain ⟨hne, hknown⟩ := Parameters.validate_ok houter
  have hmade := run_mapM_ok hgates
  have hnew : ∀ g ∈ gates, g.isFinished = false := by
    intro g hg
    obtain ⟨d, -, w₁, w₂, hmake⟩ := exists_of_forall₂ hmade hg
    obtain ⟨-, relation, -, hg⟩ := Gate.make_ok hmake
    rw [hg]
    rfl
  refine ⟨hknown, ⟨hsound, ?_⟩, hmade.length_eq.symm, fun k d g hd hg => ?_⟩
  have hopen : ¬ ∀ g ∈ gates, g.isFinished = true := by
    intro hdone
    obtain ⟨g, hg⟩ := List.exists_mem_of_ne_nil gates ((ne_nil_of_forall₂ hmade).mp hne)
    exact Bool.false_ne_true ((hnew g hg).symm.trans (hdone g hg))
  · exact (if_neg hopen).symm
  · obtain ⟨hk, rfl⟩ := List.getElem?_eq_some_iff.mp hd
    obtain ⟨hk', rfl⟩ := List.getElem?_eq_some_iff.mp hg
    obtain ⟨w₁, w₂, hmake⟩ := (List.forall₂_iff_get.mp hmade).2 k hk hk'
    exact Gate.alone_of_make hc hmake

-- ---------------------------------------------------------------------------
-- Polls
-- ---------------------------------------------------------------------------

theorem poll_apart (hc : c.Steady supported calendar r) {task : GatedTask}
    (h : Apart c past ds task.gates) (t : Moment) (w : World σ) :
    Apart c (fun k => past k ++ reached c k [t] (task, w)) ds (poll c t (task, w)).2.1.gates := by
  obtain ⟨answers, polled, w₁, w₂, hgates, hpoll⟩ := poll_eq c t task w
  rw [hpoll]
  refine ⟨(pollGates_polled hgates).length_eq.symm.trans h.length, fun k d g' hd hg' => ?_⟩
  have hk : k < task.gates.length := h.length ▸ (List.getElem?_eq_some_iff.mp hd).1
  have hg := List.getElem?_eq_getElem hk
  have halone := h.alone k d _ hd hg
  obtain ⟨g₁, hg₁, hpolled⟩ := pollGates_reached hgates hg
  cases hg'.symm.trans hg₁
  rw [reached, reached, List.append_nil]
  split at hpolled
  next hreaches =>
    obtain ⟨w₃, rfl⟩ := hpolled
    rw [if_pos hreaches]
    exact halone.poll hc t w₃
  next hreaches =>
    rw [if_neg hreaches, List.append_nil, hpolled]
    exact halone

theorem after_apart (hc : c.Steady supported calendar r) {task : GatedTask}
    (h : Apart c past ds task.gates) (times : List Moment) (w : World σ) :
    Apart c (fun k => past k ++ reached c k times (task, w)) ds
      (after c times (task, w)).1.gates := by
  induction times generalizing past task w with
  | nil =>
    simp only [reached, List.append_nil]
    exact h
  | cons t rest ih =>
    have hrest := ih (poll_apart hc h t w) (poll c t (task, w)).2.2
    simp only [List.append_assoc] at hrest
    simp only [reached_cons _ t rest]
    exact hrest

end GatedTask

-- ---------------------------------------------------------------------------
-- Polls that return
-- ---------------------------------------------------------------------------

theorem Collaborators.Steady.backs (hc : c.Steady supported calendar r) {id : Value}
    (h : r.Comparable id) : r.Backs (fun _ => True) c id where
  toAnswer := hc.answer id
  tasks p short s _ := ⟨hc.tasks p short s, trivial⟩
  comparable := h

theorem evaluate_returns (hc : c.Steady supported calendar r)
    (h : r.Comparable item.definitionId) (t : Moment) (w : World σ) :
    ∃ v, (evaluate c item t w).1 = .ok v := by
  have hresolve := hc.resolve t item.date w.state
  have hbacks := hc.backs h
  rcases r.all_or_first_unsuccessful item (calendar t item.date) with
    hall | ⟨before, i, after, hsplit, hbefore, hi⟩
  · obtain ⟨w', hrun, -⟩ := evaluate_of_walk hresolve trivial (verdictAfter_succeeds hbacks hall)
    exact ⟨_, congrArg Prod.fst hrun⟩
  · rw [hsplit] at hresolve
    obtain ⟨w', hrun, -⟩ := evaluate_of_walk hresolve trivial (verdictAfter_stops hbacks hbefore hi)
    exact ⟨_, congrArg Prod.fst hrun⟩

theorem Gate.poll_returns {g : Gate} (hs : g.Sound)
    (hev : ∀ item ∈ g.items, ∀ w : World σ, ∃ v, (evaluate c item t w).1 = .ok v) (w : World σ) :
    ∃ b, (Gate.poll c t (g, w)).1 = .ok b := by
  cases hpoll : (Gate.poll c t (g, w)).1 with
  | ok b => exact ⟨b, rfl⟩
  | error f =>
    obtain ⟨item, hitem, w₁, -, hfault⟩ :=
      (Gate.poll_stays (S := fun _ => True) hs (fun _ _ _ => trivial) trivial).2 f hpoll
    obtain ⟨v, hv⟩ := hev item hitem w₁
    cases hv.symm.trans hfault

theorem pollGates_returns {gates : List Gate}
    (h : ∀ g ∈ gates, ∀ w : World σ, ∃ b, (Gate.poll c t (g, w)).1 = .ok b) (w : World σ) :
    ∃ finished, (pollGates c t gates w).1 = .ok finished := by
  induction gates generalizing w with
  | nil => exact ⟨[], rfl⟩
  | cons g rest ih =>
    obtain ⟨hg, hrest⟩ := List.forall_mem_cons.mp h
    obtain ⟨b, hb⟩ := hg w
    obtain ⟨others, hothers⟩ := ih hrest (Gate.poll c t (g, w)).2.2
    have hpoll : Gate.poll c t (g, w) = (.ok b, (Gate.poll c t (g, w)).2) := Prod.ext hb rfl
    have hpolls : pollGates c t rest (Gate.poll c t (g, w)).2.2 =
        (.ok others, (pollGates c t rest (Gate.poll c t (g, w)).2.2).2) := Prod.ext hothers rfl
    refine ⟨b :: others, ?_⟩
    unfold pollGates
    rw [hpoll]
    dsimp only
    rw [hpolls]

namespace GatedTask

theorem poll_returns {task : GatedTask} {w : World σ}
    (h : ∃ finished, (pollGates c t task.gates w).1 = .ok finished) :
    (poll c t (task, w)).1.isOk = true := by
  obtain ⟨answers, polled, w₁, w₂, hgates, hpoll⟩ := poll_eq c t task w
  obtain ⟨finished, hfinished⟩ := h
  rw [hgates] at hfinished
  rw [hpoll, show answers = .ok finished from hfinished]
  rfl

theorem returned_of_comparable (hc : c.Steady supported calendar r) {ds : List Declaration}
    (hcomparable : ∀ d ∈ ds, ∀ item ∈ d.items, r.Comparable item.definitionId) {task : GatedTask}
    (h : Apart c past ds task.gates) (times : List Moment) (w : World σ) :
    returned c times (task, w) = times := by
  induction times generalizing past task w with
  | nil => rfl
  | cons t rest ih =>
    have hgates : ∀ g ∈ task.gates, ∀ w : World σ, ∃ b, (Gate.poll c t (g, w)).1 = .ok b := by
      intro g hg w
      obtain ⟨k, d, hd, hdg⟩ := h.declaration hg
      obtain ⟨hsound, hitems⟩ := hdg.sound w
      refine Gate.poll_returns hsound (fun item hitem w => ?_) w
      exact evaluate_returns hc (hcomparable d hd item (hitems ▸ hitem)) t w
    rw [returned, if_pos (poll_returns (pollGates_returns hgates w)),
      ih (poll_apart hc h t w) (poll c t (task, w)).2.2]
    rfl

/-- Gates of one task on steady collaborators do not interfere: after any polls each is as its
declaration alone would have it, polled at the times whose polls reached it. Those that returned
did, and all of them return if no two ends of different kinds are met. The task has a verdict as
soon as all gates are finished and not before; it is final and stays in all later polls. -/
theorem polls_apart (hc : c.Steady supported calendar r) {p : Parameters} {task : GatedTask}
    (hmake : make c p w₀ = (.ok task, w)) :
    ∃ outer, p.relation = .known outer ∧ ∀ times,
      let s := after c times (task, w)
      Apart c (fun k => reached c k times (task, w)) p.declarations s.1.gates ∧
      (∀ k, (returned c times (task, w)).Sublist (reached c k times (task, w))) ∧
      ((∀ d ∈ p.declarations, ∀ item ∈ d.items, r.Comparable item.definitionId) →
        returned c times (task, w) = times ∧ ∀ k, reached c k times (task, w) = times) ∧
      (∀ t, (poll c t s).1 = .ok true ↔ ∀ g ∈ (poll c t s).2.1.gates, g.isFinished = true) ∧
      (s.1.verdict = if ∀ g ∈ s.1.gates, g.isFinished = true then
          outer.combine (s.1.gates.map (·.verdict)) else .waiting) ∧
      ((∀ g ∈ s.1.gates, g.isFinished = true) → s.1.verdict = .success ∨ s.1.verdict = .failed) ∧
      (s.1.verdict ≠ .waiting → ∀ later, (after c later s).1.verdict = s.1.verdict) := by
  obtain ⟨houter, hnew, halone⟩ := make_apart hc hmake
  refine ⟨task.relation, houter, fun times => ?_⟩
  obtain ⟨hs, hrelation⟩ := hnew.after c times w
  have hverdict := hs.verdict
  rw [combined, hrelation] at hverdict
  have hreturned := fun k => returned_sublist (c := c) k times (task, w)
  refine ⟨by simpa only [List.nil_append] using after_apart hc halone times w, hreturned,
    fun hcomparable => ?_, fun t => (hs.poll rfl).2.2, hverdict, fun hdone => ?_,
    fun hset later => hs.after_keeps_verdict hset later _⟩
  · have hall := returned_of_comparable hc hcomparable halone times w
    rw [hall] at hreturned
    exact ⟨hall, fun k => (reached_sublist k times _).antisymm (hreturned k)⟩
  · rw [← Verdict.isFinal_iff, hs.verdict, if_pos hdone]
    exact combined_isFinal hdone

end GatedTask

-- ---------------------------------------------------------------------------
-- Two declarations under one key
-- ---------------------------------------------------------------------------

theorem Records.collaborators_steady (r : Records) (intervals : List Interval) :
    (r.collaborators intervals).Steady (fun _ => true) (fun _ _ => intervals) r where
  supports _ _ := rfl
  resolve _ _ _ := rfl
  answer _ :=
    ⟨fun _ _ _ => ⟨rfl, trivial⟩, fun _ _ _ => ⟨rfl, trivial⟩, fun _ _ _ => ⟨rfl, trivial⟩⟩
  tasks _ _ _ := rfl

def onProcess (definitionId : Int) (short : Number.Short definitionId := by exact Eq.refl true) :
    Declaration where
  items := [⟨.str "k", .int definitionId short, .str wholeProcess, .str "today"⟩]

def onLoad : Declaration where
  items := [⟨.str "k", .int 7, .str "load", .str "today"⟩]

/-- The first process was run twice, and the two ends are written in different kinds; the second
process succeeded. -/
def mixedEnds : Records where
  running _ _ := none
  scheduled id _ := if id = .int 7 then
      some { id := 1, definitionId := 7, status := .success, runMode := .scheduled,
             stop := some default }
    else some { id := 2, definitionId := 8, status := .success, runMode := .scheduled,
                stop := some default }
  manual id _ := if id = .int 7 then
      some { id := 3, definitionId := 7, status := .success, runMode := .manual,
             stop := some { (default : Moment) with offset := some 0 } }
    else none
  tasks _ := []

namespace GatedTask

/-- The collaborators do not raise, but the ends of the first process cannot be compared. The gate
of the second process is not polled; alone it would have succeeded. -/
theorem poll_stops_at_mixed_ends :
    (mixedEnds.collaborators [firstDay]).Steady (fun _ => true) (fun _ _ => [firstDay]) mixedEnds ∧
    ∃ task w g₀ w₀,
      make (mixedEnds.collaborators [firstDay]) ⟨[onProcess 7, onProcess 8], .known .all⟩
        { state := () } = (.ok task, w) ∧
      (poll (mixedEnds.collaborators [firstDay]) default (task, w)).2.1.gates.map (·.verdict) =
        [.waiting, .waiting] ∧
      Gate.make (mixedEnds.collaborators [firstDay]) (onProcess 8) { state := () } =
        (.ok g₀, w₀) ∧
      (Gate.poll (mixedEnds.collaborators [firstDay]) default (g₀, w₀)).2.1.verdict = .success :=
  ⟨mixedEnds.collaborators_steady [firstDay], _, _, _, _, rfl, by decide +kernel, rfl,
    by decide +kernel⟩

def onBoth : Parameters := ⟨[onProcess 7, onLoad], .known .all⟩

/-- On the first of the three days the process failed and its task `load` succeeded. The two gates
have their items under one key and find different verdicts, each its own. -/
theorem polls_apart_on_first_day : ∃ task w,
    make (threeDays.collaborators [firstDay]) onBoth { state := () } = (.ok task, w) ∧
    (∀ later, (after (threeDays.collaborators [firstDay]) (default :: later) (task, w)).1.verdict =
      .failed) ∧
    Gate.Alone (threeDays.collaborators [firstDay]) [default] onLoad
      { items := onLoad.items, relation := .all, verdict := .success,
        settled := [(.str "k", .success)] } := by
  obtain ⟨task, w, hmake, hgates, hverdict⟩ : ∃ task w,
      make (threeDays.collaborators [firstDay]) onBoth { state := () } = (.ok task, w) ∧
      (after (threeDays.collaborators [firstDay]) [default] (task, w)).1.gates =
        [{ items := (onProcess 7).items, relation := .all, verdict := .failed,
           settled := [(.str "k", .failed)] },
         { items := onLoad.items, relation := .all, verdict := .success,
           settled := [(.str "k", .success)] }] ∧
      (after (threeDays.collaborators [firstDay]) [default] (task, w)).1.verdict = .failed :=
    ⟨_, _, rfl, by decide +kernel, by decide +kernel⟩
  refine ⟨task, w, hmake, ?_⟩
  obtain ⟨outer, -, hpolls⟩ := polls_apart (threeDays.collaborators_steady [firstDay]) hmake
  obtain ⟨hapart, -, hreturned, -, -, -, hkept⟩ := hpolls [default]
  obtain ⟨-, hreached⟩ := hreturned fun _ _ item _ => threeDays_comparable item.definitionId
  constructor
  · intro later
    exact (hkept (by rw [hverdict]; decide) later).trans hverdict
  · have halone := hapart.alone 1 onLoad _ rfl (by rw [hgates]; rfl)
    rwa [hreached] at halone

end GatedTask
end DependencyGate
