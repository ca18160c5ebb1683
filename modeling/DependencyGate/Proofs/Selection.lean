import DependencyGate.Proofs.Computation

/-!
# Selection from fixed records

A history store that only reads answers a question always with the same records. What
stands for an interval is then a function of the records (`Records.standing?`), and
finding it takes the lookups that `Records.lookups` lists (`selectExecution_returns`).

Nothing is said of stores that raise faults; `Exchanges` says how these are reported.
-/

namespace DependencyGate

open Json (Value)
open Time (Moment Interval)

-- ---------------------------------------------------------------------------
-- Computations that return
-- ---------------------------------------------------------------------------

namespace Engine

variable {σ α β : Type} {S : σ → Prop}

theorem ask_ok (call : Call) {answer : σ → Reply α × σ} {w : World σ}
    (h : (answer w.state).1.outcome = .ok a) :
    ∃ w', ask call answer w = (.ok a, w') ∧ w'.state = (answer w.state).2 ∧
      w'.calls = w.calls ++ [call] := by
  refine ⟨(ask call answer w).2, ?_, rfl, rfl⟩
  rw [← h]
  rfl

theorem guarded_ok {x : Engine σ α} {w : World σ} (h : x w = (.ok a, w')) (collaborator : String)
    (context : Context) : guarded collaborator context x w = (.ok a, w') := by
  rw [guarded, h]

/-- From any state in `S` the computation returns a value, makes these calls, and stays in `S`. -/
def Returns (S : σ → Prop) (x : Engine σ α) (a : α) (calls : List Call) : Prop :=
  ∀ w, S w.state → ∃ w', x w = (.ok a, w') ∧ S w'.state ∧ w'.calls = w.calls ++ calls

namespace Returns

theorem pure (a : α) : Returns S (Pure.pure a : Engine σ α) a [] := by
  intro w hw
  exact ⟨w, rfl, hw, (List.append_nil _).symm⟩

theorem note (level : Journal.Level) (part : Journal.Part) (message : String) :
    Returns S (Engine.note level part message : Engine σ Unit) () [] := by
  intro w hw
  exact ⟨_, rfl, hw, (List.append_nil _).symm⟩

theorem ask (call : Call) {answer : σ → Reply α × σ}
    (h : ∀ s, S s → (answer s).1.outcome = .ok a ∧ S (answer s).2) :
    Returns S (Engine.ask call answer) a [call] := by
  intro w hw
  obtain ⟨ha, hs⟩ := h w.state hw
  obtain ⟨w', hrun, hstate, hmade⟩ := ask_ok call ha
  exact ⟨w', hrun, hstate ▸ hs, hmade⟩

theorem bind {x : Engine σ α} {f : α → Engine σ β} (hx : Returns S x a made)
    (hf : Returns S (f a) b later) : Returns S (x >>= f) b (made ++ later) := by
  intro w hw
  obtain ⟨w₁, hrun, hw₁, hmade⟩ := hx w hw
  obtain ⟨w₂, hrun', hw₂, hlater⟩ := hf w₁ hw₁
  refine ⟨w₂, (run_bind_of_ok hrun).trans hrun', hw₂, ?_⟩
  rw [hlater, hmade, List.append_assoc]

theorem guarded {x : Engine σ α} (hx : Returns S x a made) (collaborator : String)
    (context : Context) : Returns S (Engine.guarded collaborator context x) a made := by
  intro w hw
  obtain ⟨w', hrun, hw', hmade⟩ := hx w hw
  exact ⟨w', guarded_ok hrun collaborator context, hw', hmade⟩

end Returns
end Engine

-- ---------------------------------------------------------------------------
-- Executions by their end
-- ---------------------------------------------------------------------------

def endsBefore : Option Int → Option Int → Bool
  | _, none => false
  | none, some _ => true
  | some a, some b => a < b

/-- The last to end of what was scheduled and what was manual, the scheduled one on a tie. -/
def lastBy {α : Type} (ended : α → Option Int) (scheduled manual : Option α) : Option α :=
  match scheduled, manual with
  | s, none => s
  | none, m => m
  | some s, some m => if endsBefore (ended s) (ended m) then some m else some s

theorem lastBy_none {α : Type} {ended : α → Option Int} {m : Option α} :
    lastBy ended none m = m := by
  cases m <;> rfl

theorem lastBy_bind {α β : Type} {f : α → Option β} {ended : α → Option Int}
    {ended' : β → Option Int} {s m : Option α}
    (hs : ∀ a, s = some a → ∃ b, f a = some b ∧ ended' b = ended a)
    (hm : ∀ a, m = some a → ∃ b, f a = some b ∧ ended' b = ended a) :
    lastBy ended' (s.bind f) (m.bind f) = (lastBy ended s m).bind f := by
  cases s with
  | none => rw [Option.bind_none, lastBy_none, lastBy_none]
  | some a =>
    obtain ⟨a', ha, haended⟩ := hs a rfl
    cases m with
    | none => rfl
    | some b =>
      obtain ⟨b', hb, hbended⟩ := hm b rfl
      simp only [Option.bind_some, ha, hb, lastBy, haended, hbended]
      split
      · rw [Option.bind_some, hb]
      · rw [Option.bind_some, ha]

def Execution.ended (e : Execution) : Option Int := e.stop.map Moment.instant

def lastEnded (scheduled manual : Option Execution) : Option Execution :=
  lastBy Execution.ended scheduled manual

def SameEnds (s m : Execution) : Prop :=
  ∀ a b, s.stop = some a → m.stop = some b → Moment.SameKind b a

theorem laterFinished_some {s m : Execution} (h : SameEnds s m) :
    laterFinished (some s) (some m) = .ok (lastEnded (some s) (some m)) := by
  simp only [laterFinished, lastEnded, lastBy, Execution.ended]
  split
  next hm => simp only [hm, Option.map_none, endsBefore, Bool.false_eq_true, if_false]
  next b hs hm => simp only [hs, hm, Option.map_none, Option.map_some, endsBefore, if_true]
  next a b hs hm =>
    simp only [hs, hm, Option.map_some, endsBefore, Moment.isAfter, if_pos (h a b hs hm)]
    cases decide (a.instant < b.instant) <;> rfl

theorem laterFinished_eq {scheduled manual : Option Execution}
    (h : ∀ s m, scheduled = some s → manual = some m → SameEnds s m) :
    laterFinished scheduled manual = .ok (lastEnded scheduled manual) := by
  cases manual with
  | none => cases scheduled <;> rfl
  | some m =>
    cases scheduled with
    | none => rfl
    | some s => exact laterFinished_some (h s m rfl rfl)

-- ---------------------------------------------------------------------------
-- Records
-- ---------------------------------------------------------------------------

/-- What a history store answers, when that depends on the question alone. -/
structure Records where
  running : Value → Interval → Option Execution
  scheduled : Value → Interval → Option Execution
  manual : Value → Interval → Option Execution
  tasks : Int → List TaskExecution

namespace Records

/-- In the states of `S`, which no lookup leaves, the executions of a definition are looked
up in the records. -/
structure Answer (r : Records) {σ : Type} (S : σ → Prop) (c : Collaborators σ) (id : Value) :
    Prop where
  running : ∀ i s, S s →
    (c.running id i s).1.outcome = .ok (r.running id i) ∧ S (c.running id i s).2
  scheduled : ∀ i s, S s →
    (c.scheduled id i s).1.outcome = .ok (r.scheduled id i) ∧ S (c.scheduled id i s).2
  manual : ∀ i s, S s → (c.manual id i s).1.outcome = .ok (r.manual id i) ∧ S (c.manual id i s).2

/-- The scheduled and the manual execution of an interval have ends of one kind. -/
def Comparable (r : Records) (id : Value) : Prop :=
  ∀ i s m, r.scheduled id i = some s → r.manual id i = some m → SameEnds s m

def standing? (r : Records) (id : Value) (i : Interval) : Option Execution :=
  (r.running id i).or (lastEnded (r.scheduled id i) (r.manual id i))

def lookups (r : Records) (id : Value) (i : Interval) : List Call :=
  .running id i :: if (r.running id i).isSome then [] else [.scheduled id i, .manual id i]

end Records

variable {σ : Type} {S : σ → Prop} {c : Collaborators σ} {r : Records} {id : Value}

/-- What is selected is what stands for the interval, and it is found by the lookups that
are needed. -/
theorem selectExecution_returns (h : r.Answer S c id) (hc : r.Comparable id) (i : Interval) :
    Engine.Returns S (selectExecution c id i) (r.standing? id i) (r.lookups id i) := by
  have hrunning := Engine.Returns.ask (.running id i) (h.running i)
  have hscheduled := Engine.Returns.ask (.scheduled id i) (h.scheduled i)
  have hmanual := Engine.Returns.ask (.manual id i) (h.manual i)
  unfold selectExecution Records.standing? Records.lookups
  cases hr : r.running id i with
  | some e =>
    rw [hr] at hrunning
    have hfound : Engine.Returns S (candidates c id i) (.running e) [.running id i] :=
      hrunning.bind ((Engine.Returns.note _ _ _).bind (.pure _))
    exact (hfound.guarded _ _).bind (.pure _)
  | none =>
    rw [hr] at hrunning
    have hfound : Engine.Returns S (candidates c id i)
        (.finished (r.scheduled id i) (r.manual id i))
        [.running id i, .scheduled id i, .manual id i] :=
      hrunning.bind (hscheduled.bind (hmanual.bind (.pure _)))
    refine (hfound.guarded _ _).bind ?_
    simp only [laterFinished_eq (hc i)]
    exact .pure _

end DependencyGate
