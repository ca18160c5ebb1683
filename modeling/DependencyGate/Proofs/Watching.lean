import DependencyGate.Proofs.Computation

/-!
# Watched evaluators and collaborators

A watched evaluator or collaborator answers as the plain one does and takes down what
happens, in the state that it carries along. The programs that run on it are the same,
so the record tells what they did: which items were evaluated and with what outcome
(`Visit`), which calls were made meanwhile and which of them raised a fault (`Exchange`).
-/

namespace DependencyGate

open Json (Value)
open Time (Moment)

/-- A state together with what was taken down. -/
structure Watched (ε σ : Type) where
  state : σ
  seen : List ε

section
variable {ε σ : Type}

def World.watched (w : World σ) (seen : List ε) : World (Watched ε σ) :=
  { state := ⟨w.state, seen⟩, calls := w.calls, journal := w.journal }

def World.plain (w : World (Watched ε σ)) : World σ :=
  { state := w.state.state, calls := w.calls, journal := w.journal }

@[simp] theorem World.plain_watched (w : World σ) (seen : List ε) :
    (w.watched seen).plain = w := rfl

@[simp] theorem World.watched_seen (w : World σ) (seen : List ε) :
    (w.watched seen).state.seen = seen := rfl

end

-- ---------------------------------------------------------------------------
-- Evaluators
-- ---------------------------------------------------------------------------

/-- An evaluation of an item: when, in which world, and what came of it. -/
structure Visit (σ : Type) where
  item : Item
  reference : Moment
  start : World σ
  outcome : Except Fault Verdict

def Evaluator.watched {σ : Type} (ev : Evaluator σ) : Evaluator (Watched (Visit σ) σ) :=
  fun item reference w =>
    let (outcome, after) := ev item reference w.plain
    (outcome, after.watched (w.state.seen ++ [⟨item, reference, w.plain, outcome⟩]))

namespace Visit

variable {σ : Type}

def Answered (v : Visit σ) : Prop := ∃ verdict, v.outcome = .ok verdict

def final? (v : Visit σ) : Option Verdict :=
  match v.outcome with
  | .ok verdict => if verdict.isFinal then some verdict else none
  | .error _ => none

def finals (visits : List (Visit σ)) : List (Value × Verdict) :=
  visits.filterMap fun v => v.final?.map fun verdict => (v.item.key, verdict)

/-- The first final verdict that any of the visits to an item ended with. -/
def firstFinal? (visits : List (Visit σ)) (item : Item) : Option Verdict :=
  visits.findSome? fun v => if v.item = item then v.final? else none

theorem final?_isFinal {v : Visit σ} (h : v.final? = some verdict) : verdict.isFinal = true := by
  unfold final? at h
  split at h
  · split at h
    · cases h; assumption
    · cases h
  · cases h

@[simp] theorem finals_nil : finals ([] : List (Visit σ)) = [] := rfl

theorem finals_cons (v : Visit σ) (rest : List (Visit σ)) :
    finals (v :: rest) =
      (v.final?.map fun verdict => (v.item.key, verdict)).toList ++ finals rest := by
  cases h : v.final? <;> simp [finals, h]

@[simp] theorem finals_append (xs ys : List (Visit σ)) :
    finals (xs ++ ys) = finals xs ++ finals ys := by
  simp [finals]

theorem of_mem_finals {visits : List (Visit σ)} (h : entry ∈ finals visits) :
    ∃ v ∈ visits, v.item.key = entry.1 ∧ v.final? = some entry.2 := by
  obtain ⟨v, hv, hentry⟩ := List.mem_filterMap.mp h
  obtain ⟨verdict, hfinal, rfl⟩ := Option.map_eq_some_iff.mp hentry
  exact ⟨v, hv, rfl, hfinal⟩

theorem finals_isFinal {visits : List (Visit σ)} (h : entry ∈ finals visits) :
    entry.2.isFinal = true := by
  obtain ⟨v, _, _, hfinal⟩ := of_mem_finals h
  exact final?_isFinal hfinal

end Visit

-- ---------------------------------------------------------------------------
-- Collaborators
-- ---------------------------------------------------------------------------

structure Exchange where
  call : Call
  fault : Option Fault
deriving DecidableEq

def Reply.fault? {α : Type} (r : Reply α) : Option Fault :=
  match r.outcome with
  | .ok _ => none
  | .error f => some f

def Watched.answer {α σ : Type} (call : Call) (answer : σ → Reply α × σ) :
    Watched Exchange σ → Reply α × Watched Exchange σ := fun s =>
  let (reply, state) := answer s.state
  (reply, ⟨state, s.seen ++ [⟨call, reply.fault?⟩]⟩)

def Collaborators.watched {σ : Type} (c : Collaborators σ) :
    Collaborators (Watched Exchange σ) where
  supports expression s :=
    let (supported, state) := c.supports expression s.state
    (supported, ⟨state, s.seen ++ [⟨.supports expression, none⟩]⟩)
  resolve reference date := Watched.answer (.resolve reference date) (c.resolve reference date)
  running id i := Watched.answer (.running id i) (c.running id i)
  scheduled id i := Watched.answer (.scheduled id i) (c.scheduled id i)
  manual id i := Watched.answer (.manual id i) (c.manual id i)
  tasks id short := Watched.answer (.tasks id short) (c.tasks id short)

def Visit.exchanges {σ : Type} (c : Collaborators σ) (v : Visit σ) : List Exchange :=
  (evaluate c.watched v.item v.reference (v.start.watched [])).2.state.seen

end DependencyGate
