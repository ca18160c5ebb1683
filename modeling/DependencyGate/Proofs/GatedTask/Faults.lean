import DependencyGate.Proofs.GatedTask.Apart

/-!
# Faults of a poll

What a collaborator raises leaves a poll as an incident. The one other fault is that two ends are
compared of which one has an offset and the other has none (`selectExecution_foreign_iff`): the
later of two executions is chosen after the guarded lookups. Without such ends every fault of a
poll is an incident (`poll_faults`).
-/

namespace DependencyGate

open Json (Value)
open Time (Moment Interval)

variable {σ : Type} {c : Collaborators σ} {id : Value} {i : Interval}

-- ---------------------------------------------------------------------------
-- Selections
-- ---------------------------------------------------------------------------

/-- Asked in this state, the store finds nothing that runs in the interval, and a scheduled and a
manual execution whose ends cannot be compared. -/
def Collaborators.MixesEnds (c : Collaborators σ) (id : Value) (i : Interval) (state : σ) : Prop :=
  let running := c.running id i state
  let scheduled := c.scheduled id i running.2
  let manual := c.manual id i scheduled.2
  running.1.outcome = .ok none ∧ ∃ s m, scheduled.1.outcome = .ok (some s) ∧
    manual.1.outcome = .ok (some m) ∧ ¬ SameEnds s m

theorem laterFinished_error_iff {scheduled manual : Option Execution} :
    laterFinished scheduled manual = .error f ↔
      f = .mixedKinds ∧ ∃ s m, scheduled = some s ∧ manual = some m ∧ ¬ SameEnds s m := by
  by_cases h : ∀ s m, scheduled = some s → manual = some m → SameEnds s m
  · rw [laterFinished_eq h]
    refine iff_of_false nofun ?_
    rintro ⟨-, s, m, hs, hm, hmixed⟩
    exact hmixed (h s m hs hm)
  · push Not at h
    obtain ⟨s, m, rfl, rfl, hmixed⟩ := h
    obtain ⟨a, b, ha, hb, hkind⟩ : ∃ a b, s.stop = some a ∧ m.stop = some b ∧ ¬ b.SameKind a := by
      simpa [SameEnds] using hmixed
    have hraised : laterFinished (some s) (some m) = .error .mixedKinds := by
      simp only [laterFinished, ha, hb, Moment.isAfter, if_neg hkind]
      rfl
    rw [hraised, Except.error.injEq, eq_comm]
    exact (and_iff_left ⟨s, m, rfl, rfl, hmixed⟩).symm

theorem candidates_finished_iff {w : World σ} :
    (candidates c id i w).1 = .ok (.finished scheduled manual) ↔
      (c.running id i w.state).1.outcome = .ok none ∧
      (c.scheduled id i (c.running id i w.state).2).1.outcome = .ok scheduled ∧
      (c.manual id i (c.scheduled id i (c.running id i w.state).2).2).1.outcome = .ok manual := by
  simp only [candidates, run_bind, Engine.ask]
  cases (c.running id i w.state).1.outcome with
  | error f => simp
  | ok running => cases running with
    | some e => simp [run_bind, Engine.note, run_pure]
    | none =>
      simp only [run_bind, Engine.ask]
      cases (c.scheduled id i (c.running id i w.state).2).1.outcome with
      | error f => simp
      | ok s =>
        simp only
        cases (c.manual id i (c.scheduled id i (c.running id i w.state).2).2).1.outcome with
        | error f => simp
        | ok m => simp [run_pure]

theorem Collaborators.mixesEnds_iff {w : World σ} : c.MixesEnds id i w.state ↔
    ∃ s m, (candidates c id i w).1 = .ok (.finished (some s) (some m)) ∧ ¬ SameEnds s m := by
  simp only [candidates_finished_iff, MixesEnds]
  tauto

theorem selectExecution_foreign_iff {w : World σ} :
    (selectExecution c id i w).1 = .error (.foreign f) ↔
      f = .time .mixedKinds ∧ c.MixesEnds id i w.state := by
  rw [Collaborators.mixesEnds_iff, selectExecution, run_bind, Engine.guarded]
  cases candidates c id i w with
  | mk result w' =>
    cases result with
    | error f' => cases f' <;> simp
    | ok found => cases found with
      | running e => simp [run_pure]
      | finished scheduled manual =>
        simp only [Except.ok.injEq, Candidates.finished.injEq]
        cases hlater : laterFinished scheduled manual with
        | ok e =>
          constructor
          · intro h
            cases h
          · rintro ⟨-, s, m, hfound, hmixed⟩
            cases hlater.symm.trans
              (laterFinished_error_iff.mpr ⟨rfl, s, m, hfound.1, hfound.2, hmixed⟩)
        | error f' =>
          obtain ⟨rfl, s, m, hs, hm, hmixed⟩ := laterFinished_error_iff.mp hlater
          constructor
          · rintro ⟨⟩
            exact ⟨rfl, s, m, ⟨hs, hm⟩, hmixed⟩
          · rintro ⟨rfl, -⟩
            rfl

-- ---------------------------------------------------------------------------
-- Computations that contain their faults
-- ---------------------------------------------------------------------------

structure Collaborators.Stay (c : Collaborators σ) (S : σ → Prop) : Prop where
  resolve : ∀ t date s, S s → S (c.resolve t date s).2
  running : ∀ id i s, S s → S (c.running id i s).2
  scheduled : ∀ id i s, S s → S (c.scheduled id i s).2
  manual : ∀ id i s, S s → S (c.manual id i s).2
  tasks : ∀ p short s, S s → S (c.tasks p short s).2

/-- From a state in `S` the computation stays in `S`, and every foreign fault that it ends in has
the property. -/
def Contains {α : Type} (S : σ → Prop) (p : Foreign → Prop) (x : Engine σ α) : Prop :=
  ∀ w, S w.state → S (x w).2.state ∧ ∀ f, (x w).1 = .error (.foreign f) → p f

namespace Contains

variable {α β : Type} {S : σ → Prop} {p q : Foreign → Prop}

theorem pure (a : α) : Contains S p (Pure.pure a : Engine σ α) := by
  intro w hw
  refine ⟨hw, ?_⟩
  rintro f ⟨⟩

theorem throw {f : Foreign} (hf : p f) :
    Contains S p (MonadExcept.throw (.foreign f) : Engine σ α) := by
  intro w hw
  refine ⟨hw, ?_⟩
  rintro _ ⟨⟩
  exact hf

theorem note (level : Journal.Level) (part : Journal.Part) (message : String) :
    Contains S p (Engine.note level part message : Engine σ Unit) := by
  intro w hw
  refine ⟨hw, ?_⟩
  rintro f ⟨⟩

theorem ask (call : Call) {answer : σ → Reply α × σ} (h : ∀ s, S s → S (answer s).2) :
    Contains S (fun _ => True) (Engine.ask call answer) :=
  fun w hw => ⟨h w.state hw, fun _ _ => trivial⟩

theorem guarded {x : Engine σ α} (hx : Contains S q x) (collaborator : String)
    (context : Context) : Contains S p (Engine.guarded collaborator context x) := by
  intro w hw
  have hstate := (hx w hw).1
  unfold Engine.guarded
  cases hrun : x w with
  | mk result w' =>
    rw [hrun] at hstate
    cases result with
    | ok a =>
      refine ⟨hstate, ?_⟩
      rintro f ⟨⟩
    | error f =>
      refine ⟨by cases f <;> exact hstate, ?_⟩
      cases f <;> rintro f ⟨⟩

theorem bind {x : Engine σ α} {f : α → Engine σ β} (hx : Contains S p x)
    (hf : ∀ a, Contains S p (f a)) : Contains S p (x >>= f) := by
  intro w hw
  obtain ⟨hstate, hfault⟩ := hx w hw
  rw [run_bind]
  cases hrun : x w with
  | mk result w' =>
    rw [hrun] at hstate hfault
    cases result with
    | ok a => exact hf a w' hstate
    | error e =>
      refine ⟨hstate, ?_⟩
      rintro f' ⟨⟩
      exact hfault f' rfl

end Contains

-- ---------------------------------------------------------------------------
-- Evaluations
-- ---------------------------------------------------------------------------

section
variable {S : σ → Prop}

def MeetsMixedEnds (c : Collaborators σ) (S : σ → Prop) (id : Value) (f : Foreign) : Prop :=
  f = .time .mixedKinds ∧ ∃ i state, S state ∧ c.MixesEnds id i state

variable (hc : c.Stay S)
include hc

theorem candidates_contains (id : Value) (i : Interval) :
    Contains S (fun _ => True) (candidates c id i) := by
  refine (Contains.ask _ (hc.running id i)).bind fun running => ?_
  cases running with
  | some e => exact (Contains.note _ _ _).bind fun _ => .pure _
  | none =>
    exact (Contains.ask _ (hc.scheduled id i)).bind fun _ =>
      (Contains.ask _ (hc.manual id i)).bind fun _ => .pure _

theorem selectExecution_contains (id : Value) (i : Interval) :
    Contains S (MeetsMixedEnds c S id) (selectExecution c id i) := by
  have hstays : Contains S (fun _ => True) (selectExecution c id i) := by
    refine ((candidates_contains hc id i).guarded _ _).bind fun found => ?_
    cases found with
    | running e => exact .pure _
    | finished scheduled manual =>
      dsimp only
      split
      · exact .pure _
      · exact .throw trivial
  intro w hw
  refine ⟨(hstays w hw).1, fun f h => ?_⟩
  obtain ⟨hf, hmixed⟩ := selectExecution_foreign_iff.mp h
  exact ⟨hf, i, w.state, hw, hmixed⟩

theorem intervalVerdict_contains (item : Item) (i : Interval) :
    Contains S (MeetsMixedEnds c S item.definitionId) (intervalVerdict c item i) := by
  refine (selectExecution_contains hc item.definitionId i).bind fun found => ?_
  cases found with
  | none => exact (Contains.note _ _ _).bind fun _ => .pure _
  | some e =>
    dsimp only
    unfold executionVerdict
    split
    · exact .pure _
    · refine ((Contains.ask _ (hc.tasks e.id e.short)).guarded _ _).bind fun tasks => ?_
      cases item.taskIn? tasks with
      | some t => exact .pure _
      | none => exact (Contains.note _ _ _).bind fun _ => .pure _

theorem verdictAfter_contains (item : Item) (v : Verdict) (intervals : List Interval) :
    Contains S (MeetsMixedEnds c S item.definitionId) (verdictAfter c item v intervals) := by
  induction intervals generalizing v with
  | nil => exact .pure v
  | cons i rest ih =>
    refine (intervalVerdict_contains hc item i).bind fun v => ?_
    split
    · exact ih v
    · exact .pure v

theorem evaluate_contains (item : Item) (t : Moment) :
    Contains S (MeetsMixedEnds c S item.definitionId) (evaluate c item t) :=
  ((Contains.ask _ (hc.resolve t item.date)).guarded _ _).bind fun intervals =>
    verdictAfter_contains hc item .failed intervals

-- ---------------------------------------------------------------------------
-- Polls
-- ---------------------------------------------------------------------------

theorem Gate.poll_contains {g : Gate} {w : World σ} (hs : g.Sound) (hw : S w.state) :
    S (Gate.poll c t (g, w)).2.2.state ∧ ∀ f, (Gate.poll c t (g, w)).1 = .error (.foreign f) →
      ∃ item ∈ g.items, MeetsMixedEnds c S item.definitionId f := by
  obtain ⟨hstate, hfault⟩ :=
    Gate.poll_stays hs (fun item w hw => (evaluate_contains hc item t w hw).1) hw
  refine ⟨hstate, fun f hf => ?_⟩
  obtain ⟨item, hitem, w₁, hw₁, hraised⟩ := hfault _ hf
  exact ⟨item, hitem, (evaluate_contains hc item t w₁ hw₁).2 f hraised⟩

theorem pollGates_contains {gates : List Gate} {w : World σ} (hs : ∀ g ∈ gates, g.Sound)
    (hw : S w.state) (h : (pollGates c t gates w).1 = .error (.foreign f)) :
    ∃ g ∈ gates, ∃ item ∈ g.items, MeetsMixedEnds c S item.definitionId f := by
  induction gates generalizing w with
  | nil => cases h
  | cons g rest ih =>
    obtain ⟨hg, hrest⟩ := List.forall_mem_cons.mp hs
    obtain ⟨hstate, hfault⟩ := Gate.poll_contains (t := t) hc hg hw
    obtain ⟨polled, g', w₁, hpoll, hrest'⟩ := pollGates_cons (Prod.ext h rfl)
    obtain ⟨f', rfl, hf, -⟩ | ⟨b, others, rest', rfl, hothers, hresult, -⟩ := hrest'
    · cases hf
      obtain ⟨item, hitem, hmixed⟩ := hfault f (by rw [hpoll])
      exact ⟨g, List.mem_cons_self, item, hitem, hmixed⟩
    · rw [hpoll] at hstate
      obtain ⟨g, hg, hmixed⟩ := ih (w := w₁) hrest hstate (by
        rw [hothers]
        cases others with
        | ok _ => cases hresult
        | error f' => cases hresult; rfl)
      exact ⟨g, List.mem_cons_of_mem _ hg, hmixed⟩

end

theorem GatedTask.poll_fault {task : GatedTask} (h : (poll c t (task, w)).1 = .error f) :
    (pollGates c t task.gates w).1 = .error f := by
  obtain ⟨answers, polled, w₁, w₂, hgates, hpoll⟩ := poll_eq c t task w
  rw [hpoll] at h
  rw [hgates]
  cases answers with
  | ok _ => cases h
  | error f' => cases h; rfl

/-- A poll of a gate or of a task returns, or it ends in an incident, whatever the collaborators
answer or raise; or else it compares two ends of different kinds, which the store has answered on
the definition of one of the items. The states `S` are any that hold the first one and that no call
leaves. -/
theorem poll_faults (c : Collaborators σ) {S : σ → Prop} (hc : c.Stay S) (t : Moment) (w : World σ)
    (hw : S w.state) :
    (∀ (g : Gate) (f : Fault), g.Sound → (Gate.poll c t (g, w)).1 = .error f →
      (∃ incident, f = .own incident) ∨ f = .foreign (.time .mixedKinds) ∧
        ∃ item ∈ g.items, ∃ i state, S state ∧ c.MixesEnds item.definitionId i state) ∧
    (∀ (task : GatedTask) (f : Fault), (∀ g ∈ task.gates, g.Sound) →
      (GatedTask.poll c t (task, w)).1 = .error f →
      (∃ incident, f = .own incident) ∨ f = .foreign (.time .mixedKinds) ∧ ∃ g ∈ task.gates,
        ∃ item ∈ g.items, ∃ i state, S state ∧ c.MixesEnds item.definitionId i state) := by
  constructor
  · intro g f hs h
    cases f with
    | own incident => exact .inl ⟨incident, rfl⟩
    | foreign f =>
      obtain ⟨item, hitem, rfl, hmixed⟩ := (Gate.poll_contains hc hs hw).2 f h
      exact .inr ⟨rfl, item, hitem, hmixed⟩
  · intro task f hs h
    cases f with
    | own incident => exact .inl ⟨incident, rfl⟩
    | foreign f =>
      obtain ⟨g, hg, item, hitem, rfl, hmixed⟩ :=
        pollGates_contains hc hs hw (GatedTask.poll_fault h)
      exact .inr ⟨rfl, g, hg, item, hitem, hmixed⟩

/-- The two ends of the process are of different kinds. The fault of comparing them leaves the poll
of its gate, and that of a task with this gate, although no collaborator raised anything. -/
theorem poll_fault_is_foreign_on_mixed_ends : ∃ g w task w',
    Gate.make (mixedEnds.collaborators [firstDay]) (onProcess 7) { state := () } = (.ok g, w) ∧
    (Gate.poll (mixedEnds.collaborators [firstDay]) default (g, w)).1 =
      .error (.foreign (.time .mixedKinds)) ∧
    GatedTask.make (mixedEnds.collaborators [firstDay]) ⟨[onProcess 7], .known .all⟩
      { state := () } = (.ok task, w') ∧
    (GatedTask.poll (mixedEnds.collaborators [firstDay]) default (task, w')).1 =
      .error (.foreign (.time .mixedKinds)) :=
  ⟨_, _, _, _, rfl, by decide +kernel, rfl, by decide +kernel⟩

/-- A connection that is lost is an incident to the gate, and to a task that waits on it. -/
theorem poll_fault_is_own_on_lost_connection :
    let w := Gate.pairWorld .all [.error (.foreign (.raised .connection "lost"))]
    (∃ i, (Gate.poll Gate.scripted default (Gate.pairGate .all, w)).1 = .error (.own i)) ∧
    ∃ i, (GatedTask.poll Gate.scripted default ({ gates := [Gate.pairGate .all], relation := .all },
      w)).1 = .error (.own i) := by
  intro w
  have hsound : (Gate.pairGate .all).Sound := Gate.make_sound (Gate.make_pair .all [])
  -- The script has nothing but running executions.
  have hnone : ∀ id i state, ¬ Gate.scripted.MixesEnds id i state := by
    rintro id i state ⟨-, s, m, hs, -⟩
    cases hs
  have hstay : Gate.scripted.Stay fun _ => True :=
    ⟨fun _ _ _ _ => trivial, fun _ _ _ _ => trivial, fun _ _ _ _ => trivial, fun _ _ _ _ => trivial,
      fun _ _ _ _ => trivial⟩
  obtain ⟨hgate, htask⟩ := poll_faults Gate.scripted hstay default w trivial
  constructor
  · obtain ⟨f, hf⟩ : ∃ f, (Gate.poll Gate.scripted default (Gate.pairGate .all, w)).1 = .error f :=
      ⟨_, rfl⟩
    obtain ⟨i, rfl⟩ | ⟨-, item, -, i, state, -, hmixed⟩ := hgate _ f hsound hf
    · exact ⟨i, hf⟩
    · exact absurd hmixed (hnone item.definitionId i state)
  · obtain ⟨f, hf⟩ : ∃ f, (GatedTask.poll Gate.scripted default
        ({ gates := [Gate.pairGate .all], relation := .all }, w)).1 = .error f := ⟨_, rfl⟩
    obtain ⟨i, rfl⟩ | ⟨-, g, -, item, -, i, state, -, hmixed⟩ :=
      htask _ f (by simpa using hsound) hf
    · exact ⟨i, hf⟩
    · exact absurd hmixed (hnone item.definitionId i state)

end DependencyGate
