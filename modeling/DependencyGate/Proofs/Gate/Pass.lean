import DependencyGate.Proofs.Acceptance
import DependencyGate.Proofs.Watching

/-!
# Passes over the items of a gate

A pass goes through items in order: it skips those whose key has a verdict, visits the
others and remembers what is final, up to the first fault. `Pass` says so as a relation
between the gate before and after, the visits and the result; `resolveItemsWith_pass`
says that the gate makes no other passes and that its visits are those that a watched
evaluator takes down.
-/

namespace DependencyGate.Gate

open Json (Value)
open Time (Moment)

-- ---------------------------------------------------------------------------
-- What a gate remembers
-- ---------------------------------------------------------------------------

def known? (entries : List (Value × Verdict)) (key : Value) : Option Verdict :=
  (entries.find? fun entry => entry.1.sameKey key).map (·.2)

theorem settled?_eq (g : Gate) (key : Value) : g.settled? key = known? g.settled key := rfl

theorem known?_append (xs ys : List (Value × Verdict)) (key : Value) :
    known? (xs ++ ys) key = (known? xs key).or (known? ys key) := by
  simp [known?, List.find?_append, Option.map_or]

theorem known?_prefix {entries more : List (Value × Verdict)} (h : entries <+: more)
    (hc : known? entries key = some v) : known? more key = some v := by
  obtain ⟨later, rfl⟩ := h
  rw [known?_append, hc]
  rfl

def isOpen (g : Gate) (item : Item) : Bool := (g.settled? item.key).isNone

def pending (g : Gate) : List Item := g.items.filter g.isOpen

def standing (g : Gate) (item : Item) : Verdict := (g.settled? item.key).getD .waiting

theorem settled?_settle (g : Gate) (key key' : Value) (v : Verdict) :
    (g.settle key v).settled? key' =
      (g.settled? key').or (if key.sameKey key' then some v else none) := by
  rw [settled?_eq, settled?_eq, settle, known?_append]
  cases h : key.sameKey key' <;> simp [known?, h]

section
variable {σ : Type}

def record (item : Item) (v : Verdict) (s : Gate × World σ) : Gate × World σ :=
  if v.isFinal then
    (s.1.settle item.key v, (Engine.note .info .gate (resolvedText item.key v) s.2).2)
  else s

theorem record_settled? {item : Item} {v : Verdict} (s : Gate × World σ) (key : Value)
    (h : item.key.sameKey key = false) :
    (record item v s).1.settled? key = s.1.settled? key := by
  unfold record
  split
  · simp [settled?_settle, h]
  · rfl

theorem record_isOpen {item other : Item} {v : Verdict} (s : Gate × World σ)
    (h : item.key.sameKey other.key = false) :
    (record item v s).1.isOpen other = s.1.isOpen other := by
  simp only [isOpen, record_settled? s other.key h]

-- ---------------------------------------------------------------------------
-- One item
-- ---------------------------------------------------------------------------

theorem resolveItemWith_unusable {s : Gate × World σ} {item : Item} (hk : item.key.isKey = false) :
    resolveItemWith ev t item s = (.error (.foreign (.unfitKey item.key.kind)), s) := by
  simp only [resolveItemWith, run_bind, checkKey, hk]
  rfl

theorem resolveItemWith_cached {s : Gate × World σ} {item : Item} (hk : item.key.isKey = true)
    (hc : s.1.settled? item.key = some v) : resolveItemWith ev t item s = (.ok v, s) := by
  simp only [resolveItemWith, run_bind, GateRun.ofEngine, GateRun.gate, Engine.ofForeign, checkKey,
    hk, run_pure, if_true, hc]

theorem resolveItemWith_fresh {s : Gate × World σ} {item : Item} (hk : item.key.isKey = true)
    (hc : s.1.settled? item.key = none) :
    resolveItemWith ev t item s = match ev item t s.2 with
      | (.ok v, w) => (.ok v, record item v (s.1, w))
      | (.error f, w) => (.error f, s.1, w) := by
  simp only [resolveItemWith, evaluateItemWith, run_bind, GateRun.ofEngine, GateRun.gate,
    Engine.ofForeign, checkKey, hk, run_pure, if_true, hc]
  cases ev item t s.2 with
  | mk result w =>
    cases result with
    | error f => rfl
    | ok v => cases v <;> rfl

-- ---------------------------------------------------------------------------
-- All items
-- ---------------------------------------------------------------------------

/-- A pass over items, with the visits it makes and what it ends with. -/
inductive Pass (ev : Evaluator σ) (t : Moment) : List Item → Gate × World σ → List (Visit σ) →
    Except Fault (List Verdict) → Gate × World σ → Prop
  | done {s : Gate × World σ} : Pass ev t [] s [] (.ok []) s
  | cached {item items s v visits result s'} (hc : s.1.settled? item.key = some v)
      (rest : Pass ev t items s visits result s') :
      Pass ev t (item :: items) s visits (result.map (v :: ·)) s'
  | visited {item items s v w visits result s'} (hc : s.1.settled? item.key = none)
      (he : ev item t s.2 = (.ok v, w))
      (rest : Pass ev t items (record item v (s.1, w)) visits result s') :
      Pass ev t (item :: items) s (⟨item, t, s.2, .ok v⟩ :: visits) (result.map (v :: ·)) s'
  | faulted {item items s f w} (hc : s.1.settled? item.key = none)
      (he : ev item t s.2 = (.error f, w)) :
      Pass ev t (item :: items) s [⟨item, t, s.2, .error f⟩] (.error f) (s.1, w)

theorem resolveItemsWith_cons (ev : Evaluator σ) (t : Moment) (item : Item) (rest : List Item)
    (s : Gate × World σ) :
    resolveItemsWith ev t (item :: rest) s = match resolveItemWith ev t item s with
      | (.ok v, s) =>
        ((resolveItemsWith ev t rest s).1.map (v :: ·), (resolveItemsWith ev t rest s).2)
      | (.error f, s) => (.error f, s) := by
  simp only [resolveItemsWith, run_bind]
  cases resolveItemWith ev t item s with
  | mk result s₁ =>
    cases result with
    | error f => rfl
    | ok v =>
      simp only
      cases resolveItemsWith ev t rest s₁ with
      | mk results s₂ => cases results <;> rfl

theorem record_watched (item : Item) (v : Verdict) (g : Gate) (w : World σ) (seen : List ε) :
    record item v (g, w.watched seen) =
      ((record item v (g, w)).1, (record item v (g, w)).2.watched seen) := by
  cases v <;> rfl

theorem resolveItemsWith_pass (ev : Evaluator σ) (t : Moment) {items : List Item}
    (hk : ∀ item ∈ items, item.key.isKey = true) (s : Gate × World σ) :
    ∃ visits result s', Pass ev t items s visits result s' ∧
      resolveItemsWith ev t items s = (result, s') ∧
      ∀ past, resolveItemsWith ev.watched t items (s.1, s.2.watched past) =
        (result, s'.1, s'.2.watched (past ++ visits)) := by
  induction items generalizing s with
  | nil => exact ⟨[], .ok [], s, .done, rfl, fun past => by rw [List.append_nil]; rfl⟩
  | cons item rest ih =>
    obtain ⟨hitem, hrest⟩ := List.forall_mem_cons.mp hk
    cases hc : s.1.settled? item.key with
    | some v =>
      obtain ⟨visits, result, s', hp, hr, hw⟩ := ih hrest s
      refine ⟨visits, result.map (v :: ·), s', .cached hc hp, ?_, fun past => ?_⟩
      · rw [resolveItemsWith_cons, resolveItemWith_cached hitem hc]
        simp only [hr]
      · rw [resolveItemsWith_cons, resolveItemWith_cached (s := (s.1, s.2.watched past)) hitem hc]
        simp only [hw]
    | none =>
      cases he : ev item t s.2 with
      | mk outcome w =>
        cases outcome with
        | error f =>
          refine ⟨_, _, _, .faulted hc he, ?_, fun past => ?_⟩
          · rw [resolveItemsWith_cons, resolveItemWith_fresh hitem hc, he]
          · rw [resolveItemsWith_cons,
              resolveItemWith_fresh (s := (s.1, s.2.watched past)) hitem hc]
            simp only [Evaluator.watched, World.plain_watched, World.watched_seen, he]
        | ok v =>
          obtain ⟨visits, result, s', hp, hr, hw⟩ := ih hrest (record item v (s.1, w))
          refine ⟨_ :: visits, result.map (v :: ·), s', .visited hc he hp, ?_, fun past => ?_⟩
          · rw [resolveItemsWith_cons, resolveItemWith_fresh hitem hc, he]
            simp only [hr]
          · rw [resolveItemsWith_cons,
              resolveItemWith_fresh (s := (s.1, s.2.watched past)) hitem hc]
            simp only [Evaluator.watched, World.plain_watched, World.watched_seen, he,
              record_watched, hw, List.append_assoc, List.singleton_append]

namespace Pass

variable {ev : Evaluator σ} {items : List Item} {s s' : Gate × World σ} {visits : List (Visit σ)}
  {result : Except Fault (List Verdict)}

theorem gate_eq (h : Pass ev t items s visits result s') :
    s'.1 = { s.1 with settled := s.1.settled ++ Visit.finals visits } := by
  induction h with
  | done => simp
  | cached _ _ ih => exact ih
  | @visited item items s v w visits result s' hc he _ ih =>
    rw [ih]
    cases v <;> simp [record, settle, Visit.finals, Visit.final?]
  | faulted => simp [Visit.finals, Visit.final?]

theorem stays {S : σ → Prop} (h : Pass ev t items s visits result s')
    (hev : ∀ item w, S w.state → S (ev item t w).2.state) (hs : S s.2.state) :
    S s'.2.state ∧ ∀ v ∈ visits, S v.start.state := by
  induction h with
  | done => exact ⟨hs, List.forall_mem_nil _⟩
  | cached _ _ ih => exact ih hs
  | @visited item items s v w visits result s' hc he _ ih =>
    have hw : S w.state := by
      have hstate := hev item s.2 hs
      rwa [he] at hstate
    obtain ⟨hs', hvisits⟩ := ih (by cases v <;> exact hw)
    exact ⟨hs', List.forall_mem_cons.mpr ⟨hs, hvisits⟩⟩
  | @faulted item items s f w hc he =>
    have hstate := hev item s.2 hs
    rw [he] at hstate
    exact ⟨hstate, List.forall_mem_singleton.mpr hs⟩

theorem outcome_eq (h : Pass ev t items s visits result s') (hv : v ∈ visits) :
    v.reference = t ∧ v.outcome = (ev v.item t v.start).1 := by
  induction h with
  | done => cases hv
  | cached _ _ ih => exact ih hv
  | visited _ he _ ih =>
    rcases List.mem_cons.mp hv with rfl | hv
    · exact ⟨rfl, by simp [he]⟩
    · exact ih hv
  | faulted _ he =>
    rw [List.mem_singleton.mp hv]
    exact ⟨rfl, by simp [he]⟩

theorem settled?_mono (h : Pass ev t items s visits result s')
    (hc : s.1.settled? key = some v) : s'.1.settled? key = some v := by
  rw [h.gate_eq]
  exact known?_prefix (List.prefix_append _ _) hc

theorem settled?_other (h : Pass ev t items s visits result s')
    (hn : ∀ item ∈ items, item.key.sameKey key = false) :
    s'.1.settled? key = s.1.settled? key := by
  induction h with
  | done => rfl
  | cached _ _ ih => exact ih (List.forall_mem_cons.mp hn).2
  | visited _ _ _ ih =>
    obtain ⟨hitem, hrest⟩ := List.forall_mem_cons.mp hn
    rw [ih hrest, record_settled? _ _ hitem]
  | faulted => rfl

theorem verdicts_eq (h : Pass ev t items s visits result s') (hk : Keyed items)
    (hr : result = .ok verdicts) : verdicts = items.map s'.1.standing := by
  induction h generalizing verdicts with
  | done =>
    cases hr
    rfl
  | @cached item items s v visits result s' hc hp ih =>
    cases result with
    | error f => cases hr
    | ok rest =>
      cases hr
      rw [List.map_cons, ← ih hk.tail rfl, standing, hp.settled?_mono hc]
      rfl
  | @visited item items s v w visits result s' hc he hp ih =>
    cases result with
    | error f => cases hr
    | ok rest =>
      cases hr
      -- A final verdict has been remembered; without one nothing is known, which is waiting.
      have hv : s'.1.standing item = v := by
        have hother : ∀ other ∈ items, other.key.sameKey item.key = false := fun other ho => by
          rw [sameKey_comm]
          exact hk.head.2 other ho
        rw [standing, hp.settled?_other hother]
        cases v <;> simp [record, settled?_settle, sameKey_refl, hc]
      rw [List.map_cons, ← ih hk.tail rfl, hv]
  | faulted => cases hr

end Pass

-- ---------------------------------------------------------------------------
-- How far a pass gets
-- ---------------------------------------------------------------------------

/-- The visits go to the open items in order: to all of them, or up to the one whose
evaluation ends in a fault. -/
def Reach (g : Gate) (items : List Item) (visits : List (Visit σ)) : Except Fault α → Prop
  | .ok _ => visits.map (·.item) = items.filter g.isOpen ∧ ∀ v ∈ visits, v.Answered
  | .error f => ∃ before item after earlier last,
    items = before ++ item :: after ∧ g.isOpen item = true ∧
      visits = earlier ++ [last] ∧ earlier.map (·.item) = before.filter g.isOpen ∧
      (∀ v ∈ earlier, v.Answered) ∧ last.item = item ∧ last.outcome = .error f

namespace Reach

variable {g : Gate} {items : List Item} {visits : List (Visit σ)} {result : Except Fault α}

theorem congr {g' : Gate} (hg : ∀ item ∈ items, g'.isOpen item = g.isOpen item)
    (h : Reach g' items visits result) : Reach g items visits result := by
  cases result with
  | ok a => exact ⟨by rw [h.1, List.filter_congr hg], h.2⟩
  | error f =>
    obtain ⟨before, item, after, earlier, last, rfl, ho, hv, hb, ha, hl⟩ := h
    have hbefore : ∀ other ∈ before, g'.isOpen other = g.isOpen other :=
      fun other hm => hg other (List.mem_append_left _ hm)
    have hitem : g'.isOpen item = g.isOpen item := hg item (by simp)
    exact ⟨before, item, after, earlier, last, rfl, hitem ▸ ho, hv,
      by rw [hb, List.filter_congr hbefore], ha, hl⟩

theorem skip {item : Item} (f : α → β) (ho : g.isOpen item = false)
    (h : Reach g items visits result) : Reach g (item :: items) visits (result.map f) := by
  cases result with
  | ok a => exact ⟨by simp [h.1, ho], h.2⟩
  | error e =>
    obtain ⟨before, other, after, earlier, last, rfl, hopen, hv, hb, ha, hl⟩ := h
    exact ⟨item :: before, other, after, earlier, last, rfl, hopen, hv, by simp [hb, ho], ha, hl⟩

theorem visit {v : Visit σ} (f : α → β) (ho : g.isOpen v.item = true) (hv : v.Answered)
    (h : Reach g items visits result) :
    Reach g (v.item :: items) (v :: visits) (result.map f) := by
  cases result with
  | ok a => exact ⟨by simp [h.1, ho], List.forall_mem_cons.mpr ⟨hv, h.2⟩⟩
  | error e =>
    obtain ⟨before, other, after, earlier, last, rfl, hopen, rfl, hb, ha, hl⟩ := h
    exact ⟨v.item :: before, other, after, v :: earlier, last, rfl, hopen, rfl,
      by simp [hb, ho], List.forall_mem_cons.mpr ⟨hv, ha⟩, hl⟩

theorem isPrefix (h : Reach g items visits result) :
    visits.map (·.item) <+: items.filter g.isOpen := by
  cases result with
  | ok a => exact h.1 ▸ List.prefix_rfl
  | error f =>
    obtain ⟨before, item, after, earlier, last, rfl, ho, rfl, hb, _, rfl, _⟩ := h
    exact ⟨after.filter g.isOpen, by simp [hb, ho]⟩

theorem isOpen (h : Reach g items visits result) (hv : v ∈ visits) :
    v.item ∈ items ∧ g.isOpen v.item = true :=
  List.mem_filter.mp (h.isPrefix.subset (List.mem_map_of_mem hv))

theorem distinct (h : Reach g items visits result) (hk : Keyed items) :
    visits.Pairwise fun a b => a.item.key.sameKey b.item.key = false :=
  List.pairwise_map.mp
    (hk.distinct.sublist (h.isPrefix.sublist.trans List.filter_sublist))

theorem finals_distinct (h : Reach g items visits result) (hk : Keyed items) :
    (Visit.finals visits).Pairwise fun a b => a.1.sameKey b.1 = false := by
  refine List.pairwise_filterMap.mpr ((h.distinct hk).imp fun hab a ha b hb => ?_)
  obtain ⟨_, _, rfl⟩ := Option.map_eq_some_iff.mp ha
  obtain ⟨_, _, rfl⟩ := Option.map_eq_some_iff.mp hb
  exact hab

theorem finals_new (h : Reach g items visits result) (he : entry ∈ Visit.finals visits) :
    g.settled? entry.1 = none := by
  obtain ⟨v, hv, hkey, _⟩ := Visit.of_mem_finals he
  rw [← hkey]
  exact Option.isNone_iff_eq_none.mp (h.isOpen hv).2

end Reach

theorem Pass.reach {ev : Evaluator σ} {items : List Item} (h : Pass ev t items s visits result s')
    (hk : Keyed items) : Reach s.1 items visits result := by
  induction h with
  | done => exact ⟨rfl, by simp⟩
  | cached hc _ ih => exact (ih hk.tail).skip _ (by simp [isOpen, hc])
  | visited hc _ _ ih =>
    have hsame := (ih hk.tail).congr fun other ho => record_isOpen _ (hk.head.2 other ho)
    exact hsame.visit _ (by simp [isOpen, hc]) ⟨_, rfl⟩
  | @faulted item items s f w hc he =>
    exact ⟨[], item, items, [], _, rfl, by simp [isOpen, hc], rfl, rfl, by simp, rfl, rfl⟩

end
end DependencyGate.Gate
