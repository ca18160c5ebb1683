import DependencyGate.Proofs.Watching

/-!
# Evaluations and the calls they make

The first call that raises a fault ends an evaluation, and the fault is reported for that
very call: incidents as they are, foreign faults as the incident that its collaborator did
not answer. Executions are looked up by several calls under one guard; the equations of
`Engine.guarded` bring it down to each of them. Collaborators that take down their calls
answer as the plain ones do, so what they take down is what happened.
-/

namespace DependencyGate

open Json (Value)
open Time (Moment Interval)

-- ---------------------------------------------------------------------------
-- Reports
-- ---------------------------------------------------------------------------

def Call.collaborator : Call → String
  | .supports _ | .resolve .. => "interval resolver"
  | .running .. | .scheduled .. | .manual .. | .tasks .. => "history store"

def Call.context (item : Item) : Call → Context
  | .supports _ => []
  | .resolve _ date => [("key", item.key), ("date_value", date)]
  | .running id i | .scheduled id i | .manual id i => selectionContext id i
  | .tasks id short => [("key", item.key), ("process_instance_id", .int id short)]

/-- The fault that an evaluation ends in when a call raises one. -/
def Call.reported (call : Call) (item : Item) : Fault → Fault
  | .own i => .own i
  | .foreign f => .own (.unavailable call.collaborator (call.context item) f)

namespace Engine

variable {σ α β : Type} (collaborator : String) (context : Context)

theorem guarded_pure (a : α) : guarded collaborator context (pure a : Engine σ α) = pure a := rfl

theorem guarded_note (level : Journal.Level) (part : Journal.Part) (message : String) :
    guarded collaborator context (note level part message : Engine σ Unit) =
      note level part message := rfl

theorem guarded_bind (x : Engine σ α) (f : α → Engine σ β) :
    guarded collaborator context (x >>= f) =
      guarded collaborator context x >>= fun a => guarded collaborator context (f a) := by
  funext w
  simp only [guarded, run_bind]
  cases x w with
  | mk result w' =>
    cases result with
    | ok a => rfl
    | error e => cases e <;> rfl

theorem guarded_ask {answer : σ → Reply α × σ} {w : World σ} (item : Item) (call : Call)
    (h : answer w.state = (reply, state)) :
    guarded call.collaborator (call.context item) (ask call answer) w =
      (reply.outcome.mapError (call.reported item),
        { state := state
          calls := w.calls ++ [call]
          journal := w.journal ++ reply.notes.map fun n => ⟨n.1, .history, n.2⟩ }) := by
  simp only [guarded, ask, h]
  cases reply.outcome with
  | ok a => rfl
  | error f => cases f <;> rfl

end Engine

-- ---------------------------------------------------------------------------
-- Watched computations
-- ---------------------------------------------------------------------------

section
variable {σ α β : Type}

/-- How a computation for an item ends, by the calls it made. Without a fault raised by a
call it may still end in one of its own. -/
inductive Ended (item : Item) : List Exchange → Except Fault α → Prop
  | answered {made result} (h : ∀ x ∈ made, x.fault = none) : Ended item made result
  | raised {earlier} (h : ∀ x ∈ earlier, x.fault = none) (call : Call) (f : Fault) :
      Ended item (earlier ++ [⟨call, some f⟩]) (.error (call.reported item f))

theorem Ended.prepend {item : Item} {made later : List Exchange} {result : Except Fault α}
    (h : ∀ x ∈ made, x.fault = none) (hl : Ended item later result) :
    Ended item (made ++ later) result := by
  cases hl with
  | answered hlater =>
    exact .answered fun x hx => (List.mem_append.mp hx).elim (h x) (hlater x)
  | @raised earlier hearlier call f =>
    rw [← List.append_assoc]
    exact .raised (fun x hx => (List.mem_append.mp hx).elim (h x) (hearlier x)) call f

theorem Ended.of_ok {item : Item} (h : Ended item made (.ok a : Except Fault α)) :
    ∀ x ∈ made, x.fault = none := by
  cases h
  assumption

theorem Ended.of_error {item : Item} (h : Ended item made (.error e : Except Fault α)) :
    Ended item made (.error e : Except Fault β) := by
  cases h with
  | answered h => exact .answered h
  | raised h call f => exact .raised h call f

/-- A call that raised a fault was the last one, and its fault is reported. -/
theorem Ended.of_fault {item : Item} {made : List Exchange} {result : Except Fault α}
    (h : Ended item made result) (hx : ⟨call, some f⟩ ∈ made) :
    ∃ earlier, made = earlier ++ [⟨call, some f⟩] ∧ (∀ x ∈ earlier, x.fault = none) ∧
      result = .error (call.reported item f) := by
  cases h with
  | answered hnone => cases hnone _ hx
  | @raised earlier hnone =>
    rcases List.mem_append.mp hx with hx | hx
    · cases hnone _ hx
    · cases List.mem_singleton.mp hx
      exact ⟨earlier, rfl, hnone, rfl⟩

structure Left (item : Item) (w : World σ) (made : List Exchange) (result : Except Fault α)
    (w' : World σ) : Prop where
  calls : w'.calls = w.calls ++ made.map (·.call)
  /-- Nothing is written that the gate itself writes. -/
  journal : ∃ entries, w'.journal = w.journal ++ entries ∧ ∀ e ∈ entries, e.part ≠ .gate
  ended : Ended item made result

theorem Left.then {item : Item} {w w₁ w₂ : World σ} {result : Except Fault β}
    (h : Left item w made (.ok a : Except Fault α) w₁) (hl : Left item w₁ later result w₂) :
    Left item w (made ++ later) result w₂ := by
  obtain ⟨entries, hentries, hpart⟩ := h.journal
  obtain ⟨more, hmore, hmorePart⟩ := hl.journal
  refine ⟨by rw [hl.calls, h.calls, List.map_append, List.append_assoc],
    ⟨entries ++ more, by rw [hmore, hentries, List.append_assoc], fun e he => ?_⟩,
    hl.ended.prepend h.ended.of_ok⟩
  exact (List.mem_append.mp he).elim (hpart e) (hmorePart e)

/-- The second computation is the first one with its calls taken down. -/
def Watches (item : Item) (x : Engine σ α) (y : Engine (Watched Exchange σ) α) : Prop :=
  ∀ w, ∃ made, Left item w made (x w).1 (x w).2 ∧
    ∀ past, y (w.watched past) = ((x w).1, (x w).2.watched (past ++ made))

namespace Watches

variable {item : Item}

theorem pure (a : α) : Watches item (Pure.pure a : Engine σ α) (Pure.pure a) := fun w =>
  ⟨[], ⟨(List.append_nil _).symm, ⟨[], (List.append_nil _).symm, by simp⟩, .answered (by simp)⟩,
    fun past => by rw [List.append_nil]; rfl⟩

theorem throw (f : Fault) : Watches item (MonadExcept.throw f : Engine σ α) (MonadExcept.throw f) :=
  fun w =>
  ⟨[], ⟨(List.append_nil _).symm, ⟨[], (List.append_nil _).symm, by simp⟩, .answered (by simp)⟩,
    fun past => by rw [List.append_nil]; rfl⟩

theorem note (level : Journal.Level) (part : Journal.Part) (message : String)
    (hp : part ≠ .gate) : Watches item (Engine.note level part message : Engine σ Unit)
      (Engine.note level part message) := fun w =>
  ⟨[], ⟨(List.append_nil _).symm, ⟨_, rfl, by simpa using hp⟩, .answered (by simp)⟩,
    fun past => by rw [List.append_nil]; rfl⟩

theorem ask (call : Call) (answer : σ → Reply α × σ) :
    Watches item
      (Engine.guarded call.collaborator (call.context item) (Engine.ask call answer))
      (Engine.guarded call.collaborator (call.context item)
        (Engine.ask call (Watched.answer call answer))) := fun w => by
  cases ha : answer w.state with
  | mk reply state =>
    obtain ⟨outcome, notes⟩ := reply
    refine ⟨[⟨call, Reply.fault? ⟨outcome, notes⟩⟩], ⟨?_, ?_, ?_⟩, fun past => ?_⟩
    · rw [Engine.guarded_ask item call ha]
      rfl
    · rw [Engine.guarded_ask item call ha]
      refine ⟨_, rfl, fun e he => ?_⟩
      obtain ⟨n, _, rfl⟩ := List.mem_map.mp he
      simp
    · rw [Engine.guarded_ask item call ha]
      cases outcome with
      | ok a => exact .answered (by simp [Reply.fault?])
      | error f => exact Ended.raised (List.forall_mem_nil _) call f
    · have hwatched : Watched.answer call answer (w.watched past).state =
          (⟨outcome, notes⟩, ⟨state, past ++ [⟨call, Reply.fault? ⟨outcome, notes⟩⟩]⟩) := by
        simp only [Watched.answer, World.watched, ha]
      rw [Engine.guarded_ask item call ha, Engine.guarded_ask item call hwatched]
      rfl

theorem bind {x : Engine σ α} {y : Engine (Watched Exchange σ) α} {f : α → Engine σ β}
    {g : α → Engine (Watched Exchange σ) β} (hx : Watches item x y)
    (hf : ∀ a, Watches item (f a) (g a)) : Watches item (x >>= f) (y >>= g) := fun w => by
  obtain ⟨made, hleft, hy⟩ := hx w
  cases hr : x w with
  | mk result w₁ =>
    rw [hr] at hleft hy
    cases result with
    | error e =>
      refine ⟨made, ?_, fun past => ?_⟩
      · rw [run_bind, hr]
        exact ⟨hleft.calls, hleft.journal, hleft.ended.of_error⟩
      · rw [run_bind, run_bind, hy, hr]
    | ok a =>
      obtain ⟨later, hlater, hg⟩ := hf a w₁
      refine ⟨made ++ later, ?_, fun past => ?_⟩
      · rw [run_bind, hr]
        exact hleft.then hlater
      · rw [run_bind, run_bind, hy, hr]
        simp only [hg, List.append_assoc]

end Watches

-- ---------------------------------------------------------------------------
-- Evaluations
-- ---------------------------------------------------------------------------

variable (c : Collaborators σ) (item : Item)

theorem candidates_watches (id : Value) (i : Interval) :
    Watches item (Engine.guarded "history store" (selectionContext id i) (candidates c id i))
      (Engine.guarded "history store" (selectionContext id i) (candidates c.watched id i)) := by
  simp only [candidates, Engine.guarded_bind]
  refine .bind (.ask (.running id i) (c.running id i)) fun found => ?_
  cases found with
  | some e =>
    simp only [Engine.guarded_bind, Engine.guarded_note, Engine.guarded_pure]
    exact .bind (.note _ _ _ (by simp)) fun _ => .pure _
  | none =>
    simp only [Engine.guarded_bind, Engine.guarded_pure]
    refine .bind (.ask (.scheduled id i) (c.scheduled id i)) fun scheduled => ?_
    exact .bind (.ask (.manual id i) (c.manual id i)) fun manual => .pure _

theorem selectExecution_watches (id : Value) (i : Interval) :
    Watches item (selectExecution c id i) (selectExecution c.watched id i) := by
  refine .bind (candidates_watches c item id i) fun found => ?_
  cases found with
  | running e => exact .pure _
  | finished scheduled manual =>
    simp only
    cases laterFinished scheduled manual with
    | ok e => exact .pure e
    | error f => exact .throw _

theorem taskVerdict_watches (e : Execution) :
    Watches item (taskVerdict c item e) (taskVerdict c.watched item e) := by
  refine .bind (.ask (.tasks e.id e.short) (c.tasks e.id e.short)) fun tasks => ?_
  cases item.taskIn? tasks with
  | some t => exact .pure _
  | none => exact .bind (.note _ _ _ (by simp)) fun _ => .pure _

theorem intervalVerdict_watches (i : Interval) :
    Watches item (intervalVerdict c item i) (intervalVerdict c.watched item i) := by
  refine .bind (selectExecution_watches c item item.definitionId i) fun found => ?_
  cases found with
  | some e =>
    simp only [executionVerdict]
    split
    · exact .pure _
    · exact taskVerdict_watches c item e
  | none => exact .bind (.note _ _ _ (by simp)) fun _ => .pure _

theorem verdictAfter_watches (v : Verdict) (intervals : List Interval) :
    Watches item (verdictAfter c item v intervals) (verdictAfter c.watched item v intervals) := by
  induction intervals generalizing v with
  | nil => exact .pure v
  | cons i rest ih =>
    refine .bind (intervalVerdict_watches c item i) fun v' => ?_
    split
    · exact ih v'
    · exact .pure v'

/-- What an evaluation asks the collaborators is what watched ones take down. -/
theorem evaluate_watches (t : Moment) :
    Watches item (evaluate c item t) (evaluate c.watched item t) :=
  .bind (.ask (.resolve t item.date) (c.resolve t item.date)) fun intervals =>
    verdictAfter_watches c item .failed intervals

def Visit.calls (v : Visit σ) : List Call := (v.exchanges c).map (·.call)

theorem Visit.evaluated (v : Visit σ) :
    Left v.item v.start (v.exchanges c) (evaluate c v.item v.reference v.start).1
        (evaluate c v.item v.reference v.start).2 ∧
      ∀ past, evaluate c.watched v.item v.reference (v.start.watched past) =
        ((evaluate c v.item v.reference v.start).1,
          (evaluate c v.item v.reference v.start).2.watched (past ++ v.exchanges c)) := by
  obtain ⟨made, hleft, hwatched⟩ := evaluate_watches c v.item v.reference v.start
  have hmade : v.exchanges c = made := by
    rw [exchanges, hwatched []]
    rfl
  exact hmade ▸ ⟨hleft, hwatched⟩

end
end DependencyGate
