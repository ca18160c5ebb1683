import DependencyGate.Evaluation
import DependencyGate.Proofs.Selection

/-!
# Evaluation from fixed records

The intervals of an item are walked up to the first one that does not succeed. On fixed
records that interval gives the verdict, whatever comes after it, and the calls made are
those that the intervals up to it take (`evaluate_stops_at_first_unsuccessful`).
-/

namespace DependencyGate

open Json (Value)
open Time (Moment Interval)

namespace Records

/-- The state that decides on an execution: its own for the whole process, else that of the
first task that has the name, or again its own when none has. -/
def deciding (r : Records) (item : Item) (e : Execution) : Status :=
  if item.target = .str wholeProcess then e.status
  else
    match (r.tasks e.id).find? fun t => Value.str t.name = item.target with
    | some t => t.status
    | none => e.status

def Succeeds (r : Records) (item : Item) (i : Interval) : Prop :=
  ∃ e, r.standing? item.definitionId i = some e ∧ (r.deciding item e).verdict = .success

def verdictOn (r : Records) (item : Item) (i : Interval) : Verdict :=
  match r.standing? item.definitionId i with
  | some e => (r.deciding item e).verdict
  | none => .failed

/-- The calls that an interval takes: tasks are only listed for a named target on an execution. -/
def callsOn (r : Records) (item : Item) (i : Interval) : List Call :=
  r.lookups item.definitionId i ++
    if item.target = .str wholeProcess then []
    else (r.standing? item.definitionId i).toList.map fun e => .tasks e.id e.short

theorem verdictOn_eq_success_iff {r : Records} {item : Item} {i : Interval} :
    r.verdictOn item i = .success ↔ r.Succeeds item i := by
  unfold verdictOn Succeeds
  cases r.standing? item.definitionId i with
  | none => simp
  | some e => simp

instance (r : Records) (item : Item) (i : Interval) : Decidable (r.Succeeds item i) :=
  decidable_of_iff (r.verdictOn item i = .success) verdictOn_eq_success_iff

/-- All that an item's evaluation asks the history store is answered from the records, and
ends that are compared are of one kind. -/
structure Backs (r : Records) {σ : Type} (S : σ → Prop) (c : Collaborators σ) (id : Value) : Prop
    extends r.Answer S c id where
  tasks : ∀ p short s, S s →
    (c.tasks p short s).1.outcome = .ok (r.tasks p) ∧ S (c.tasks p short s).2
  comparable : r.Comparable id

end Records

section
variable {σ : Type} {S : σ → Prop} {c : Collaborators σ} {r : Records} {item : Item}

-- ---------------------------------------------------------------------------
-- One interval
-- ---------------------------------------------------------------------------

theorem executionVerdict_returns (h : r.Backs S c item.definitionId) (e : Execution) :
    Engine.Returns S (executionVerdict c item e) (r.deciding item e).verdict
      (if item.target = .str wholeProcess then [] else [.tasks e.id e.short]) := by
  unfold executionVerdict Records.deciding Item.dependsOnAll
  by_cases hwhole : item.target = .str wholeProcess
  · simp only [hwhole, decide_true, if_true]
    exact .pure _
  · simp only [hwhole, decide_false, if_false]
    have htasks := (Engine.Returns.ask (.tasks e.id e.short) (h.tasks e.id e.short)).guarded
      "history store" [("key", item.key), ("process_instance_id", .int e.id e.short)]
    unfold taskVerdict
    refine htasks.bind ?_
    unfold Item.taskIn?
    cases (r.tasks e.id).find? fun t => decide (Value.str t.name = item.target) with
    | some t => exact .pure _
    | none => exact (Engine.Returns.note _ _ _).bind (.pure _)

theorem intervalVerdict_returns (h : r.Backs S c item.definitionId) (i : Interval) :
    Engine.Returns S (intervalVerdict c item i) (r.verdictOn item i) (r.callsOn item i) := by
  refine (selectExecution_returns h.toAnswer h.comparable i).bind ?_
  unfold Records.verdictOn
  cases r.standing? item.definitionId i with
  | some e => simpa using executionVerdict_returns h e
  | none =>
    simp only [Option.toList_none, List.map_nil, ite_self]
    exact (Engine.Returns.note _ _ _).bind (.pure _)

-- ---------------------------------------------------------------------------
-- The walk
-- ---------------------------------------------------------------------------

theorem verdictAfter_cons (h : r.Backs S c item.definitionId) {i : Interval}
    (hi : r.Succeeds item i)
    (hrest : Engine.Returns S (verdictAfter c item .success rest) v made) :
    Engine.Returns S (verdictAfter c item before (i :: rest)) v (r.callsOn item i ++ made) := by
  refine (intervalVerdict_returns h i).bind ?_
  rw [Records.verdictOn_eq_success_iff.mpr hi, if_pos rfl]
  exact hrest

theorem verdictAfter_succeeds (h : r.Backs S c item.definitionId) {intervals : List Interval}
    (hall : ∀ i ∈ intervals, r.Succeeds item i) :
    Engine.Returns S (verdictAfter c item v intervals) (if intervals = [] then v else .success)
      (intervals.flatMap (r.callsOn item)) := by
  induction intervals generalizing v with
  | nil => exact .pure v
  | cons i rest ih =>
    have hrest := ih (v := .success) fun j hj => hall j (List.mem_cons_of_mem i hj)
    rw [ite_self] at hrest
    exact verdictAfter_cons h (hall i List.mem_cons_self) hrest

/-- The walk ends at the first interval that does not succeed. -/
theorem verdictAfter_stops (h : r.Backs S c item.definitionId) {before : List Interval}
    (hbefore : ∀ j ∈ before, r.Succeeds item j) (hi : ¬ r.Succeeds item i) :
    Engine.Returns S (verdictAfter c item v (before ++ i :: after)) (r.verdictOn item i)
      ((before ++ [i]).flatMap (r.callsOn item)) := by
  -- The verdict from before is only looked at when there are no intervals at all.
  induction before generalizing v with
  | nil =>
    refine (intervalVerdict_returns h i).bind ?_
    rw [if_neg (mt Records.verdictOn_eq_success_iff.mp hi)]
    exact .pure _
  | cons j rest ih =>
    exact verdictAfter_cons h (hbefore j List.mem_cons_self)
      (ih fun k hk => hbefore k (List.mem_cons_of_mem j hk))

theorem Records.all_or_first_unsuccessful (r : Records) (item : Item) (intervals : List Interval) :
    (∀ i ∈ intervals, r.Succeeds item i) ∨
      ∃ before i after, intervals = before ++ i :: after ∧
        (∀ j ∈ before, r.Succeeds item j) ∧ ¬ r.Succeeds item i := by
  induction intervals with
  | nil => exact .inl (List.forall_mem_nil _)
  | cons i rest ih =>
    by_cases hi : r.Succeeds item i
    · rcases ih with hall | ⟨before, j, after, rfl, hbefore, hj⟩
      · exact .inl (List.forall_mem_cons.mpr ⟨hi, hall⟩)
      · exact .inr ⟨i :: before, j, after, rfl, List.forall_mem_cons.mpr ⟨hi, hbefore⟩, hj⟩
    · exact .inr ⟨[], i, rest, rfl, List.forall_mem_nil _, hi⟩

theorem Records.first_unsuccessful_unique (r : Records) {before before' : List Interval}
    (h : before ++ i :: after = before' ++ i' :: after')
    (hbefore : ∀ j ∈ before, r.Succeeds item j) (hi : ¬ r.Succeeds item i)
    (hbefore' : ∀ j ∈ before', r.Succeeds item j) (hi' : ¬ r.Succeeds item i') :
    before = before' ∧ i = i' ∧ after = after' := by
  induction before generalizing before' with
  | nil =>
    cases before' with
    | nil => simpa using h
    | cons j rest =>
      obtain ⟨rfl, _⟩ := List.cons.inj h
      exact absurd (hbefore' i List.mem_cons_self) hi
  | cons j rest ih =>
    cases before' with
    | nil =>
      obtain ⟨rfl, _⟩ := List.cons.inj h
      exact absurd (hbefore j List.mem_cons_self) hi'
    | cons j' rest' =>
      obtain ⟨rfl, htail⟩ := List.cons.inj h
      obtain ⟨rfl, hrest⟩ := ih htail (fun k hk => hbefore k (List.mem_cons_of_mem j hk))
        fun k hk => hbefore' k (List.mem_cons_of_mem j hk)
      exact ⟨rfl, hrest⟩

-- ---------------------------------------------------------------------------
-- The verdict on an item
-- ---------------------------------------------------------------------------

theorem evaluate_of_walk {w : World σ}
    (hresolve : (c.resolve t item.date w.state).1.outcome = .ok intervals)
    (hs : S (c.resolve t item.date w.state).2)
    (hwalk : Engine.Returns S (verdictAfter c item .failed intervals) v made) :
    ∃ w', evaluate c item t w = (.ok v, w') ∧
      w'.calls = w.calls ++ .resolve t item.date :: made := by
  obtain ⟨w₁, hask, hstate, hasked⟩ := Engine.ask_ok (.resolve t item.date) hresolve
  have hguarded := Engine.guarded_ok hask "interval resolver"
    [("key", item.key), ("date_value", item.date)]
  obtain ⟨w', hrun, _, hmade⟩ := hwalk w₁ (hstate ▸ hs)
  refine ⟨w', (run_bind_of_ok hguarded).trans hrun, ?_⟩
  rw [hmade, hasked, List.append_assoc]
  rfl

/-- Whatever a resolver lists, on a history store that answers from fixed records an
evaluation returns. It succeeds if and only if there are intervals and all of them succeed,
and then it has made the calls of all of them. Without intervals it failed. Otherwise its
verdict is that on the first interval that does not succeed, and it has made the calls of the
intervals up to that one and no others. -/
theorem evaluate_stops_at_first_unsuccessful {w : World σ} (h : r.Backs S c item.definitionId)
    (hresolve : (c.resolve t item.date w.state).1.outcome = .ok intervals)
    (hs : S (c.resolve t item.date w.state).2) :
    ∃ v w', evaluate c item t w = (.ok v, w') ∧
      (v = .success ↔ intervals ≠ [] ∧ ∀ i ∈ intervals, r.Succeeds item i) ∧
      ((∀ i ∈ intervals, r.Succeeds item i) →
        v = (if intervals = [] then .failed else .success) ∧
        w'.calls = w.calls ++ .resolve t item.date :: intervals.flatMap (r.callsOn item)) ∧
      ∀ before i after, intervals = before ++ i :: after → (∀ j ∈ before, r.Succeeds item j) →
        ¬ r.Succeeds item i →
        v = r.verdictOn item i ∧
        w'.calls = w.calls ++ .resolve t item.date :: (before ++ [i]).flatMap (r.callsOn item) := by
  rcases r.all_or_first_unsuccessful item intervals with hall | ⟨before, i, after, rfl, hbefore, hi⟩
  · obtain ⟨w', hrun, hcalls⟩ := evaluate_of_walk hresolve hs (verdictAfter_succeeds h hall)
    refine ⟨_, w', hrun, ?_, fun _ => ⟨rfl, hcalls⟩, ?_⟩
    · by_cases hnil : intervals = []
      · simp [hnil]
      · simpa [hnil] using hall
    · intro before i after hsplit _ hi
      have hmem : i ∈ intervals := by simp [hsplit]
      exact absurd (hall i hmem) hi
  · obtain ⟨w', hrun, hcalls⟩ := evaluate_of_walk hresolve hs (verdictAfter_stops h hbefore hi)
    refine ⟨_, w', hrun, ?_, ?_, ?_⟩
    · have hv : r.verdictOn item i ≠ .success := mt Records.verdictOn_eq_success_iff.mp hi
      refine ⟨fun hsuccess => absurd hsuccess hv, fun ⟨_, hall⟩ => absurd (hall i ?_) hi⟩
      simp
    · intro hall
      exact absurd (hall i (by simp)) hi
    · intro before' i' after' hsplit hbefore' hi'
      obtain ⟨rfl, rfl, rfl⟩ := r.first_unsuccessful_unique hsplit hbefore hi hbefore' hi'
      exact ⟨rfl, hcalls⟩

end

-- ---------------------------------------------------------------------------
-- A history to try the walk on
-- ---------------------------------------------------------------------------

def Records.collaborators (r : Records) (intervals : List Interval) : Collaborators Unit where
  supports _ s := (true, s)
  resolve _ _ s := (⟨.ok intervals, []⟩, s)
  running id i s := (⟨.ok (r.running id i), []⟩, s)
  scheduled id i s := (⟨.ok (r.scheduled id i), []⟩, s)
  manual id i s := (⟨.ok (r.manual id i), []⟩, s)
  tasks p _ s := (⟨.ok (r.tasks p), []⟩, s)

theorem Records.collaborators_backs (r : Records) (intervals : List Interval) {id : Value}
    (hc : r.Comparable id) : r.Backs (fun _ => True) (r.collaborators intervals) id where
  running _ _ _ := ⟨rfl, trivial⟩
  scheduled _ _ _ := ⟨rfl, trivial⟩
  manual _ _ _ := ⟨rfl, trivial⟩
  tasks _ _ _ _ := ⟨rfl, trivial⟩
  comparable := hc

def firstDay : Interval := .dayOf default
def secondDay : Interval := .dayOf ⟨Time.dayLength, none, by decide⟩
def thirdDay : Interval := .dayOf ⟨2 * Time.dayLength, none, by decide⟩

/-- On the first day a manual execution ended after a scheduled one that failed, on the second
one is under way, and on the third there is none. -/
def threeDays : Records where
  running _ i := if i = secondDay then
      some { id := 3, definitionId := 7, status := .runningExecution, runMode := .scheduled }
    else none
  scheduled _ i := if i = firstDay then
      some { id := 1, definitionId := 7, status := .failure, runMode := .scheduled,
             stop := some firstDay.start }
    else none
  manual _ i := if i = firstDay then
      some { id := 2, definitionId := 7, status := .failure, runMode := .manual,
             stop := some firstDay.stop }
    else none
  tasks p := if p = 2 then
      [⟨10, 2, "load", .success, none, none⟩, ⟨9, 2, "load", .kill, none, none⟩]
    else []

theorem threeDays_comparable (id : Value) : threeDays.Comparable id := by
  intro i s m hs hm a b ha hb
  simp only [threeDays] at hs hm
  split at hs
  · next hi =>
    rw [if_pos hi] at hm
    cases hs
    cases hm
    cases ha
    cases hb
    rfl
  · cases hs

def loadItem : Item := ⟨.str "load", .int 7, .str "load", .str "last3Days"⟩

/-- The task succeeded on the first day; on the second it is waited for, and the third, which
would be a failure, is not looked at. -/
theorem evaluate_waits_for_second_day :
    ∃ w', evaluate (threeDays.collaborators [firstDay, secondDay, thirdDay]) loadItem default
        { state := () } = (.ok .waiting, w') ∧
      w'.calls = [.resolve default (.str "last3Days"), .running (.int 7) firstDay,
        .scheduled (.int 7) firstDay, .manual (.int 7) firstDay, .tasks 2,
        .running (.int 7) secondDay, .tasks 3] := by
  have hbacks : threeDays.Backs (fun _ => True)
      (threeDays.collaborators [firstDay, secondDay, thirdDay]) loadItem.definitionId :=
    threeDays.collaborators_backs _ (threeDays_comparable _)
  obtain ⟨v, w', hrun, -, -, hfirst⟩ := evaluate_stops_at_first_unsuccessful
    (t := default) (w := { state := () }) hbacks rfl trivial
  obtain ⟨hv, hcalls⟩ := hfirst [firstDay] secondDay [thirdDay] rfl (by decide +kernel)
    (by decide +kernel)
  have hwaits : threeDays.verdictOn loadItem secondDay = .waiting := by decide +kernel
  rw [hv, hwaits] at hrun
  exact ⟨w', hrun, hcalls.trans (by decide +kernel)⟩

end DependencyGate
