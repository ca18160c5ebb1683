import DependencyGate.Proofs.Gate.Pass
import DependencyGate.Proofs.Relation

/-!
# Runs of a gate

A run is any sequence of polls, computations of the overall verdict and resolutions of
single items, each of which may end in a fault; in between the state that the
collaborators answer from may change by itself. `Sound` holds of every gate that a run
of a new one reaches, and a run only ever extends what the gate knows (`run_sound`).
-/

namespace DependencyGate.Gate

open Json (Value)
open Time (Moment)

inductive Action (σ : Type)
  | poll (reference : Moment)
  | compute (reference : Moment)
  | resolve (item : Item) (reference : Moment)
  /-- The collaborators' state changes. -/
  | meanwhile (change : σ → σ)

section
variable {σ : Type}

def Action.apply (ev : Evaluator σ) : Action σ → Gate × World σ → Gate × World σ
  | .poll t, s => (pollWith ev t s).2
  | .compute t, s => (computeOverallWith ev t s).2
  | .resolve item t, s => (resolveItemWith ev t item s).2
  | .meanwhile change, (g, w) => (g, { w with state := change w.state })

def run (ev : Evaluator σ) (actions : List (Action σ)) (s : Gate × World σ) : Gate × World σ :=
  actions.foldl (fun s a => a.apply ev s) s

def visits (ev : Evaluator σ) (actions : List (Action (Watched (Visit σ) σ)))
    (s : Gate × World σ) : List (Visit σ) :=
  (run ev.watched actions (s.1, s.2.watched [])).2.state.seen

-- ---------------------------------------------------------------------------
-- Computing and polling
-- ---------------------------------------------------------------------------

def conclude (result : Except Fault (List Verdict)) (s : Gate × World σ) : Gate × World σ :=
  match result with
  | .error _ => s
  | .ok verdicts =>
    let v := s.1.relation.combine verdicts
    ({ s.1 with verdict := v },
      if v.isFinal then (Engine.note .info .gate (finishedText s.1.relation v) s.2).2 else s.2)

theorem conclude_watched (result : Except Fault (List Verdict)) (g : Gate) (w : World σ)
    (seen : List ε) : conclude result (g, w.watched seen) =
      ((conclude result (g, w)).1, (conclude result (g, w)).2.watched seen) := by
  cases result with
  | error f => rfl
  | ok verdicts =>
    simp only [conclude]
    split <;> rfl

theorem computeOverallWith_eq (ev : Evaluator σ) (t : Moment) {s s' : Gate × World σ}
    (h : resolveItemsWith ev t s.1.items s = (result, s'))
    (hr : s'.1.relation = s.1.relation) :
    computeOverallWith ev t s = (result.map s.1.relation.combine, conclude result s') := by
  simp only [computeOverallWith, run_bind, GateRun.gate, h]
  cases result with
  | error f => rfl
  | ok verdicts =>
    simp only [GateRun.update, conclude, hr, Except.map]
    cases s.1.relation.combine verdicts <;> rfl

theorem computeOverallWith_pass (ev : Evaluator σ) (t : Moment) {s : Gate × World σ}
    (hk : Keyed s.1.items) :
    ∃ vs result s', Pass ev t s.1.items s vs result s' ∧
      computeOverallWith ev t s = (result.map s.1.relation.combine, conclude result s') ∧
      ∀ past, computeOverallWith ev.watched t (s.1, s.2.watched past) =
        (result.map s.1.relation.combine, (conclude result s').1,
          (conclude result s').2.watched (past ++ vs)) := by
  obtain ⟨vs, result, s', hp, hrun, hwatched⟩ :=
    resolveItemsWith_pass ev t hk.usable s
  have hrel : s'.1.relation = s.1.relation := by rw [hp.gate_eq]
  refine ⟨vs, result, s', hp, computeOverallWith_eq ev t hrun hrel, fun past => ?_⟩
  rw [computeOverallWith_eq ev.watched t (hwatched past) hrel, conclude_watched]

theorem pollWith_finished {ev : Evaluator σ} {s : Gate × World σ} (hf : s.1.isFinished = true)
    (t : Moment) : pollWith ev t s = (.ok true, s) := by
  simp only [pollWith, run_bind, GateRun.gate, hf, if_true, run_pure]

theorem pollWith_open {ev : Evaluator σ} {s : Gate × World σ} (hf : s.1.isFinished = false)
    (t : Moment) : pollWith ev t s =
      ((computeOverallWith ev t s).1.map Verdict.isFinal, (computeOverallWith ev t s).2) := by
  simp only [pollWith, run_bind, GateRun.gate, hf, Bool.false_eq_true, if_false]
  cases computeOverallWith ev t s with
  | mk result s' => cases result <;> rfl

theorem visits_eq {ev : Evaluator σ} {actions : List (Action (Watched (Visit σ) σ))}
    {s : Gate × World σ} {w : World σ} (h : ∀ past,
      run ev.watched actions (s.1, s.2.watched past) = (g, w.watched (past ++ vs))) :
    visits ev actions s = vs := by
  rw [visits, h []]
  rfl

theorem visits_compute (ev : Evaluator σ) (t : Moment) {s : Gate × World σ}
    (hk : Keyed s.1.items) :
    ∃ result s', Pass ev t s.1.items s (visits ev [.compute t] s) result s' ∧
      computeOverallWith ev t s = (result.map s.1.relation.combine, conclude result s') := by
  obtain ⟨vs, result, s', hp, hrun, hwatched⟩ := computeOverallWith_pass ev t hk
  have hv : visits ev [.compute t] s = vs := visits_eq fun past => congrArg Prod.snd (hwatched past)
  exact ⟨result, s', hv ▸ hp, hrun⟩

theorem visits_poll (ev : Evaluator σ) (t : Moment) {s : Gate × World σ}
    (hf : s.1.isFinished = false) : visits ev [.poll t] s = visits ev [.compute t] s := by
  show (pollWith ev.watched t (s.1, s.2.watched [])).2.2.state.seen = _
  rw [pollWith_open (s := (s.1, s.2.watched [])) hf]
  rfl

theorem visits_poll_finished (ev : Evaluator σ) (t : Moment) {s : Gate × World σ}
    (hf : s.1.isFinished = true) : visits ev [.poll t] s = [] := by
  show (pollWith ev.watched t (s.1, s.2.watched [])).2.2.state.seen = []
  rw [pollWith_finished (s := (s.1, s.2.watched [])) hf]
  rfl

-- ---------------------------------------------------------------------------
-- What every action keeps
-- ---------------------------------------------------------------------------

/-- A gate that is as a run may leave it. The last field is what makes a final verdict
stay: it follows from the remembered verdicts alone, whatever the open items turn into. -/
structure Sound (g : Gate) : Prop where
  keyed : Keyed g.items
  final : ∀ entry ∈ g.settled, entry.2.isFinal = true
  once : g.settled.Pairwise fun a b => a.1.sameKey b.1 = false
  forced : g.isFinished = true → g.relation.combine (g.items.map g.standing) = g.verdict

structure Extends (g g' : Gate) : Prop where
  items : g'.items = g.items
  relation : g'.relation = g.relation
  settled : g.settled <+: g'.settled
  verdict : g.isFinished = true → g'.verdict = g.verdict

theorem Extends.refl (g : Gate) : Extends g g := ⟨rfl, rfl, List.prefix_rfl, fun _ => rfl⟩

theorem Extends.isFinished {g g' : Gate} (h : Extends g g') (hf : g.isFinished = true) :
    g'.isFinished = true := by
  rw [Gate.isFinished, h.verdict hf]
  exact hf

theorem Extends.trans {g g' g'' : Gate} (h : Extends g g') (h' : Extends g' g'') :
    Extends g g'' where
  items := h'.items.trans h.items
  relation := h'.relation.trans h.relation
  settled := h.settled.trans h'.settled
  verdict hf := (h'.verdict (h.isFinished hf)).trans (h.verdict hf)

theorem Extends.settled? {g g' : Gate} (h : Extends g g') (hc : g.settled? key = some v) :
    g'.settled? key = some v :=
  known?_prefix h.settled hc

theorem Extends.standing {g g' : Gate} (h : Extends g g') {item : Item}
    (hf : (g.standing item).isFinal = true) : g'.standing item = g.standing item := by
  cases hc : g.settled? item.key with
  | none =>
    rw [Gate.standing, hc] at hf
    cases hf
  | some v => rw [Gate.standing, Gate.standing, hc, h.settled? hc]

/-- While a gate is finished, what it learns does not change the combination. -/
theorem Sound.combine_later {g g' : Gate} (hs : Sound g) (h : Extends g g')
    (hf : g.isFinished = true) : g.relation.combine (g.items.map g'.standing) = g.verdict := by
  have hforced := hs.forced hf
  have hcombined : (g.relation.combine (g.items.map g.standing)).isFinal = true := by
    rw [hforced]
    exact hf
  rw [Relation.combine_eq_of_isFinal (fun item _ hv => h.standing hv) hcombined, hforced]

theorem Sound.remember {g : Gate} (hs : Sound g) {more : List (Value × Verdict)}
    (hfinal : ∀ entry ∈ more, entry.2.isFinal = true)
    (hmore : more.Pairwise fun a b => a.1.sameKey b.1 = false)
    (hnew : ∀ entry ∈ more, g.settled? entry.1 = none) :
    Sound { g with settled := g.settled ++ more } ∧
      Extends g { g with settled := g.settled ++ more } := by
  have hext : Extends g { g with settled := g.settled ++ more } :=
    ⟨rfl, rfl, List.prefix_append _ _, fun _ => rfl⟩
  refine ⟨⟨hs.keyed, ?_, ?_, fun hf => hs.combine_later hext hf⟩, hext⟩
  · exact fun entry he => (List.mem_append.mp he).elim (hs.final entry) (hfinal entry)
  · refine List.pairwise_append.mpr ⟨hs.once, hmore, fun a ha b hb => ?_⟩
    have hnone := hnew b hb
    rw [settled?_eq, known?, Option.map_eq_none_iff, List.find?_eq_none] at hnone
    simpa using hnone a ha

theorem Pass.sound {ev : Evaluator σ} {s s' : Gate × World σ}
    (h : Pass ev t s.1.items s vs result s') (hs : Sound s.1) : Sound s'.1 ∧ Extends s.1 s'.1 := by
  have hreach := h.reach hs.keyed
  rw [h.gate_eq]
  exact hs.remember (fun _ => Visit.finals_isFinal) (hreach.finals_distinct hs.keyed)
    (fun _ => hreach.finals_new)

theorem computeOverallWith_sound (ev : Evaluator σ) (t : Moment) {s : Gate × World σ}
    (hs : Sound s.1) : Sound (computeOverallWith ev t s).2.1 ∧
      Extends s.1 (computeOverallWith ev t s).2.1 := by
  obtain ⟨vs, result, s', hp, hrun, _⟩ := computeOverallWith_pass ev t hs.keyed
  obtain ⟨hs', hext⟩ := hp.sound hs
  rw [hrun]
  cases result with
  | error f => exact ⟨hs', hext⟩
  | ok verdicts =>
    have hv : verdicts = s'.1.items.map s'.1.standing := by
      rw [hext.items]
      exact hp.verdicts_eq hs.keyed rfl
    refine ⟨⟨hs'.keyed, hs'.final, hs'.once, fun _ => ?_⟩,
      ⟨hext.items, hext.relation, hext.settled, fun hf => ?_⟩⟩
    · rw [hv]
      rfl
    · rw [← hs.combine_later hext hf, ← hext.items, ← hext.relation, ← hv]
      rfl

theorem pollWith_sound (ev : Evaluator σ) (t : Moment) {s : Gate × World σ} (hs : Sound s.1) :
    Sound (pollWith ev t s).2.1 ∧ Extends s.1 (pollWith ev t s).2.1 := by
  cases hf : s.1.isFinished with
  | true =>
    rw [pollWith_finished hf]
    exact ⟨hs, .refl _⟩
  | false =>
    rw [pollWith_open hf]
    exact computeOverallWith_sound ev t hs

theorem record_sound {s : Gate × World σ} (hs : Sound s.1) (hc : s.1.settled? item.key = none)
    (v : Verdict) (w : World σ) :
    Sound (record item v (s.1, w)).1 ∧ Extends s.1 (record item v (s.1, w)).1 := by
  cases hv : v.isFinal with
  | false =>
    rw [record, if_neg (by simp [hv])]
    exact ⟨hs, .refl _⟩
  | true =>
    rw [record, if_pos hv]
    exact hs.remember (by simpa using hv) (by simp) (by simpa using hc)

theorem resolveItemWith_sound (ev : Evaluator σ) (t : Moment) (item : Item) {s : Gate × World σ}
    (hs : Sound s.1) : Sound (resolveItemWith ev t item s).2.1 ∧
      Extends s.1 (resolveItemWith ev t item s).2.1 := by
  cases hk : item.key.isKey with
  | false =>
    rw [resolveItemWith_unusable hk]
    exact ⟨hs, .refl _⟩
  | true =>
    cases hc : s.1.settled? item.key with
    | some v =>
      rw [resolveItemWith_cached hk hc]
      exact ⟨hs, .refl _⟩
    | none =>
      rw [resolveItemWith_fresh hk hc]
      cases ev item t s.2 with
      | mk result w =>
        cases result with
        | error f => exact ⟨hs, .refl _⟩
        | ok v => exact record_sound hs hc v w

theorem apply_sound (ev : Evaluator σ) (a : Action σ) {s : Gate × World σ} (hs : Sound s.1) :
    Sound (a.apply ev s).1 ∧ Extends s.1 (a.apply ev s).1 := by
  cases a with
  | poll t => exact pollWith_sound ev t hs
  | compute t => exact computeOverallWith_sound ev t hs
  | resolve item t => exact resolveItemWith_sound ev t item hs
  | meanwhile change => exact ⟨hs, .refl _⟩

theorem run_sound (ev : Evaluator σ) (actions : List (Action σ)) {s : Gate × World σ}
    (hs : Sound s.1) : Sound (run ev actions s).1 ∧ Extends s.1 (run ev actions s).1 := by
  induction actions generalizing s with
  | nil => exact ⟨hs, .refl _⟩
  | cons a rest ih =>
    obtain ⟨hstep, hext⟩ := apply_sound ev a hs
    obtain ⟨hrest, hext'⟩ := ih hstep
    exact ⟨hrest, hext.trans hext'⟩

theorem make_settled {c : Collaborators σ} {d : Declaration} (h : make c d w = (.ok g, w')) :
    g.settled = [] := by
  obtain ⟨_, _, _, rfl⟩ := make_ok h
  rfl

theorem make_sound {c : Collaborators σ} {d : Declaration} (h : make c d w = (.ok g, w')) :
    Sound g := by
  obtain ⟨hk, r, _, rfl⟩ := make_ok h
  exact ⟨hk, by simp, .nil, fun hf => by cases hf⟩

theorem run_items {τ : Type} {c : Collaborators τ} {d : Declaration} {w₀ w₁ : World τ}
    (h : make c d w₀ = (.ok g, w₁)) (ev : Evaluator σ) (actions : List (Action σ)) (w : World σ) :
    (run ev actions (g, w)).1.items = d.items := by
  rw [(run_sound ev actions (s := (g, w)) (make_sound h)).2.items]
  obtain ⟨_, _, _, rfl⟩ := make_ok h
  rfl

end

-- ---------------------------------------------------------------------------
-- A gate to try runs on
-- ---------------------------------------------------------------------------

deriving instance DecidableEq for Except

/-- Collaborators that find one running execution per question, in states given beforehand
or with a fault, and nothing when these are used up. -/
def scripted : Collaborators (List (Except Fault Status)) where
  supports _ answers := (true, answers)
  resolve _ _ answers := (⟨.ok [.hourOf default], []⟩, answers)
  running _ _
    | [] => (⟨.ok none, []⟩, [])
    | .ok status :: rest =>
      (⟨.ok (some { id := 1, definitionId := 7, status, runMode := .scheduled }), []⟩, rest)
    | .error f :: rest => (⟨.error f, []⟩, rest)
  scheduled _ _ answers := (⟨.ok none, []⟩, answers)
  manual _ _ answers := (⟨.ok none, []⟩, answers)
  tasks _ _ answers := (⟨.ok [], []⟩, answers)

def pair : List Item :=
  [⟨.str "a", .int 7, .str wholeProcess, .str "today"⟩,
    ⟨.str "b", .int 7, .str wholeProcess, .str "today"⟩]

def pairGate (r : Relation) : Gate := { items := pair, relation := r }

def pairWorld (r : Relation) (answers : List (Except Fault Status)) :
    World (List (Except Fault Status)) :=
  (make scripted ⟨pair, .known r⟩ { state := answers }).2

theorem make_pair (r : Relation) (answers : List (Except Fault Status)) :
    make scripted ⟨pair, .known r⟩ { state := answers } =
      (.ok (pairGate r), pairWorld r answers) := rfl

end DependencyGate.Gate
