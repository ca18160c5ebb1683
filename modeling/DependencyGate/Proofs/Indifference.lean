import DependencyGate.Proofs.Evaluation

/-!
# Computations that do not look at their world

Collaborators that answer a question always alike make an evaluation independent of what was
asked before it. `Indifferent` says so of a computation: from states that are the same to it it
ends with one result. There is a rule for each way of building one, and with them one lemma
for each function of the gate. It may well end in a fault.
-/

namespace DependencyGate

open Json (Value)
open Time (Moment Interval)

/-- From states that are the same the computation ends with one result, in states that are
again the same. -/
def Indifferent {S α : Type} (same : S → S → Prop) (x : ExceptT Fault (StateM S) α) : Prop :=
  ∀ s s', same s s' → (x s).1 = (x s').1 ∧ same (x s).2 (x s').2

namespace Indifferent

section
variable {S α β : Type} {same : S → S → Prop}

theorem pure (a : α) : Indifferent same (Pure.pure a) := fun _ _ hs => ⟨rfl, hs⟩

theorem throw (f : Fault) : Indifferent same (MonadExcept.throw f : ExceptT Fault (StateM S) α) :=
  fun _ _ hs => ⟨rfl, hs⟩

theorem bind_of_given {x : ExceptT Fault (StateM S) α} {f : α → ExceptT Fault (StateM S) β}
    (hx : Indifferent same x)
    (hf : ∀ a s s', same s s' → (x s).1 = .ok a → Indifferent same (f a)) :
    Indifferent same (x >>= f) := by
  intro s s' hs
  obtain ⟨hresult, hsame⟩ := hx s s' hs
  rw [run_bind, run_bind]
  cases hrun : x s with
  | mk result s₁ =>
    cases hrun' : x s' with
    | mk result' s₁' =>
      rw [hrun, hrun'] at hresult hsame
      cases hresult
      cases result with
      | ok a => exact hf a s s' hs (by rw [hrun]) s₁ s₁' hsame
      | error f => exact ⟨rfl, hsame⟩

theorem bind {x : ExceptT Fault (StateM S) α} {f : α → ExceptT Fault (StateM S) β}
    (hx : Indifferent same x) (hf : ∀ a, Indifferent same (f a)) : Indifferent same (x >>= f) :=
  hx.bind_of_given fun a _ _ _ _ => hf a

end

-- ---------------------------------------------------------------------------
-- In related worlds
-- ---------------------------------------------------------------------------

/-- Worlds whose collaborators are in related states, whatever was asked and noted in them. -/
def inStates {σ : Type} (related : σ → σ → Prop) : World σ → World σ → Prop :=
  fun w w' => related w.state w'.state

def anyWorld {σ : Type} : World σ → World σ → Prop := inStates fun _ _ => True

section
variable {σ α : Type} {related : σ → σ → Prop}

theorem note (level : Journal.Level) (part : Journal.Part) (message : String) :
    Indifferent (inStates related) (Engine.note level part message : Engine σ Unit) :=
  fun _ _ hw => ⟨rfl, hw⟩

theorem ask (call : Call) {answer : σ → Reply α × σ}
    (h : ∀ s s', related s s' → (answer s).1.outcome = (answer s').1.outcome ∧
      related (answer s).2 (answer s').2) :
    Indifferent (inStates related) (Engine.ask call answer) :=
  fun w w' hw => h w.state w'.state hw

theorem ask_steady (call : Call) {answer : σ → Reply α × σ} {result : Except Fault α}
    (h : ∀ s, (answer s).1.outcome = result) : Indifferent anyWorld (Engine.ask call answer) :=
  ask call fun s s' _ => ⟨(h s).trans (h s').symm, trivial⟩

theorem guarded {same : World σ → World σ → Prop} {x : Engine σ α} (hx : Indifferent same x)
    (collaborator : String) (context : Context) :
    Indifferent same (Engine.guarded collaborator context x) := by
  intro w w' hw
  obtain ⟨hresult, hsame⟩ := hx w w' hw
  unfold Engine.guarded
  cases hrun : x w with
  | mk result w₁ =>
    cases hrun' : x w' with
    | mk result' w₁' =>
      rw [hrun, hrun'] at hresult hsame
      cases hresult
      cases result with
      | ok a => exact ⟨rfl, hsame⟩
      | error f => cases f <;> exact ⟨rfl, hsame⟩

theorem ofForeign {same : World σ → World σ → Prop} (x : Except Foreign α) :
    Indifferent same (Engine.ofForeign x : Engine σ α) := by
  cases x with
  | ok a => exact pure a
  | error f => exact throw (.foreign f)

theorem fail {same : World σ → World σ → Prop} (i : Incident) :
    Indifferent same (Engine.fail i : Engine σ α) := throw (.own i)

-- ---------------------------------------------------------------------------
-- Evaluations
-- ---------------------------------------------------------------------------

variable {c : Collaborators σ}

theorem selectExecution {id : Value} {i : Interval}
    (hrunning : Indifferent (inStates related) (Engine.ask (.running id i) (c.running id i)))
    (hscheduled : Indifferent (inStates related) (Engine.ask (.scheduled id i) (c.scheduled id i)))
    (hmanual : Indifferent (inStates related) (Engine.ask (.manual id i) (c.manual id i))) :
    Indifferent (inStates related) (DependencyGate.selectExecution c id i) := by
  refine Indifferent.bind (guarded ?_ _ _) fun found => ?_
  · refine hrunning.bind fun running => ?_
    cases running with
    | some e => exact (note _ _ _).bind fun _ => pure _
    | none => exact hscheduled.bind fun _ => hmanual.bind fun _ => pure _
  · cases found with
    | running e => exact pure _
    | finished scheduled manual =>
      dsimp only
      split
      · exact pure _
      · exact throw _

theorem intervalVerdict (item : Item)
    (hselect : Indifferent (inStates related)
      (DependencyGate.selectExecution c item.definitionId i))
    (htasks : ∀ e w w', inStates related w w' →
      (DependencyGate.selectExecution c item.definitionId i w).1 = .ok (some e) →
      Indifferent (inStates related) (Engine.ask (.tasks e.id e.short) (c.tasks e.id e.short))) :
    Indifferent (inStates related) (DependencyGate.intervalVerdict c item i) := by
  refine hselect.bind_of_given fun found w w' hw hfound => ?_
  cases found with
  | none => exact (note _ _ _).bind fun _ => pure _
  | some e =>
    dsimp only
    unfold executionVerdict
    split
    · exact pure _
    · refine ((htasks e w w' hw hfound).guarded _ _).bind fun tasks => ?_
      cases item.taskIn? tasks with
      | some t => exact pure _
      | none => exact (note _ _ _).bind fun _ => pure _

theorem verdictAfter (item : Item) (v : Verdict) {intervals : List Interval}
    (h : ∀ i ∈ intervals,
      Indifferent (inStates related) (DependencyGate.intervalVerdict c item i)) :
    Indifferent (inStates related) (DependencyGate.verdictAfter c item v intervals) := by
  induction intervals generalizing v with
  | nil => exact pure v
  | cons i rest ih =>
    obtain ⟨hi, hrest⟩ := List.forall_mem_cons.mp h
    refine hi.bind fun v => ?_
    split
    · exact ih v hrest
    · exact pure v

end
end Indifferent

-- ---------------------------------------------------------------------------
-- Steady collaborators
-- ---------------------------------------------------------------------------

/-- What the collaborators answer depends on the question alone, and none of them raises. -/
structure Collaborators.Steady {σ : Type} (c : Collaborators σ) (supported : String → Bool)
    (calendar : Moment → Value → List Interval) (r : Records) : Prop where
  supports : ∀ e s, (c.supports e s).1 = supported e
  resolve : ∀ t d s, (c.resolve t d s).1.outcome = .ok (calendar t d)
  answer : ∀ id, r.Answer (fun _ => True) c id
  tasks : ∀ p short s, (c.tasks p short s).1.outcome = .ok (r.tasks p)

namespace Collaborators.Steady

open Indifferent

variable {σ : Type} {c : Collaborators σ} {supported : String → Bool}
  {calendar : Moment → Value → List Interval} {r : Records} (hc : c.Steady supported calendar r)
include hc

theorem intervalVerdict (item : Item) (i : Interval) :
    Indifferent anyWorld (DependencyGate.intervalVerdict c item i) :=
  Indifferent.intervalVerdict item
    (Indifferent.selectExecution
      (ask_steady _ fun s => ((hc.answer item.definitionId).running i s trivial).1)
      (ask_steady _ fun s => ((hc.answer item.definitionId).scheduled i s trivial).1)
      (ask_steady _ fun s => ((hc.answer item.definitionId).manual i s trivial).1))
    fun e _ _ _ _ => ask_steady _ (hc.tasks e.id e.short)

theorem evaluate (item : Item) (t : Moment) :
    Indifferent anyWorld (DependencyGate.evaluate c item t) :=
  ((ask_steady _ (hc.resolve t item.date)).guarded _ _).bind fun _ =>
    Indifferent.verdictAfter item .failed fun i _ => hc.intervalVerdict item i

theorem validateItem (seen : List Value) (item : Item) :
    Indifferent anyWorld (item.validate c seen) := by
  refine (ofForeign _).bind fun _ => ?_
  split
  · exact fail _
  · split
    · exact fail _
    · split
      · exact fail _
      · refine Indifferent.bind ?_ fun supported => ?_
        · unfold dateSupported
          split
          · exact fun w w' _ =>
              ⟨congrArg Except.ok ((hc.supports _ w.state).trans (hc.supports _ w'.state).symm),
                trivial⟩
          · exact pure _
        · split
          · exact pure _
          · exact fail _

theorem validateItems (seen : List Value) (items : List Item) :
    Indifferent anyWorld (DependencyGate.validateItems c seen items) := by
  induction items generalizing seen with
  | nil => exact pure ()
  | cons item rest ih => exact (hc.validateItem seen item).bind fun _ => ih _

theorem make (d : Declaration) : Indifferent anyWorld (Gate.make c d) := by
  refine Indifferent.bind ?_ fun _ => pure _
  unfold Declaration.validate
  split
  · exact fail _
  · split
    · exact fail _
    · exact (hc.validateItems [] d.items).bind fun _ => (note _ _ _).bind fun _ => pure _

end Collaborators.Steady

-- ---------------------------------------------------------------------------
-- Gates
-- ---------------------------------------------------------------------------

namespace Indifferent

section
variable {σ α : Type}

def sameGate : Gate × World σ → Gate × World σ → Prop := fun s s' => s.1 = s'.1

theorem ofEngine {x : Engine σ α} (hx : Indifferent anyWorld x) :
    Indifferent sameGate (GateRun.ofEngine x) :=
  fun s s' hs => ⟨(hx s.2 s'.2 trivial).1, hs⟩

theorem gate : Indifferent sameGate (GateRun.gate : GateRun σ Gate) :=
  fun _ _ hs => ⟨congrArg Except.ok hs, hs⟩

theorem update (f : Gate → Gate) : Indifferent sameGate (GateRun.update f : GateRun σ Unit) :=
  fun _ _ hs => ⟨rfl, congrArg f hs⟩

variable {ev : Evaluator σ} (hev : ∀ item t, Indifferent anyWorld (ev item t))
include hev

theorem resolveItemWith (t : Moment) (item : Item) :
    Indifferent sameGate (Gate.resolveItemWith ev t item) := by
  refine (ofEngine (ofForeign _)).bind fun _ => gate.bind fun g => ?_
  split
  · exact pure _
  · refine (ofEngine (hev item t)).bind fun v => ?_
    dsimp only
    split
    · exact (update _).bind fun _ => (ofEngine (note _ _ _)).bind fun _ => pure v
    · exact pure v

theorem resolveItemsWith (t : Moment) (items : List Item) :
    Indifferent sameGate (Gate.resolveItemsWith ev t items) := by
  induction items with
  | nil => exact pure []
  | cons item rest ih =>
    exact (resolveItemWith hev t item).bind fun v => ih.bind fun vs => pure (v :: vs)

theorem pollWith (t : Moment) : Indifferent sameGate (Gate.pollWith ev t) := by
  refine gate.bind fun g => ?_
  split
  · exact pure true
  · refine Indifferent.bind ?_ fun v => pure v.isFinal
    refine gate.bind fun g => (resolveItemsWith hev t g.items).bind fun vs => ?_
    refine (update _).bind fun _ => ?_
    dsimp only
    split
    · exact (ofEngine (note _ _ _)).bind fun _ => pure _
    · exact pure _

end
end Indifferent
end DependencyGate
