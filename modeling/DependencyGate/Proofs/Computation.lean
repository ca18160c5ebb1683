import DependencyGate.Gate
import Mathlib.Data.List.Forall2

/-!
# Computations step by step

A reader returns a value or a fault. So do an `Engine` and a `GateRun`, which keep their
state either way. The lemmas say when each way of building one returns, and what it does to
the state it starts in.
-/

namespace DependencyGate

section
variable {ε : Type}

theorem pure_ok : (pure a : Except ε α) = .ok b ↔ a = b := by
  simp [pure, Except.pure]

theorem bind_ok {x : Except ε α} {f : α → Except ε β} :
    x >>= f = .ok b ↔ ∃ a, x = .ok a ∧ f a = .ok b := by
  cases x <;> simp [bind, Except.bind]

theorem bind_error {x : Except ε α} {f : α → Except ε β} {e : ε} :
    x >>= f = .error e ↔ x = .error e ∨ ∃ a, x = .ok a ∧ f a = .error e := by
  cases x <;> simp [bind, Except.bind]

theorem ite_error_ok {p : Prop} [Decidable p] {x : Except ε α} {e : ε} :
    (if p then .error e else x) = .ok a ↔ ¬ p ∧ x = .ok a := by
  split <;> simp [*]

theorem map_ok {x : Except ε α} {f : α → β} :
    x.map f = .ok b ↔ ∃ a, x = .ok a ∧ f a = b := by
  cases x <;> simp [Except.map]

theorem mapError_ok {x : Except ε α} {f : ε → δ} : x.mapError f = .ok a ↔ x = .ok a := by
  cases x <;> simp [Except.mapError]

theorem mapError_error {x : Except ε α} {f : ε → δ} {d : δ} :
    x.mapError f = .error d ↔ ∃ e, x = .error e ∧ f e = d := by
  cases x <;> simp [Except.mapError]

theorem toOption_ok {x : Except ε α} : x.toOption = some a ↔ x = .ok a := by
  cases x <;> simp [Except.toOption]

theorem mapM_ok {α β : Type} {f : α → Except ε β} {l : List α} {ys : List β} :
    l.mapM f = .ok ys ↔ List.Forall₂ (fun a b => f a = .ok b) l ys := by
  induction l generalizing ys with
  | nil =>
    rw [List.mapM_nil, pure_ok, List.forall₂_nil_left_iff]
    exact eq_comm
  | cons a rest ih =>
    simp only [List.mapM_cons, bind_ok, pure_ok, ih]
    constructor
    · rintro ⟨b, hb, bs, hbs, rfl⟩
      exact .cons hb hbs
    · rintro (_ | ⟨hb, hbs⟩)
      exact ⟨_, hb, _, hbs, rfl⟩

theorem mapM_error {α β : Type} {f : α → Except ε β} {l : List α} {e : ε}
    (h : l.mapM f = .error e) : ∃ a ∈ l, f a = .error e := by
  induction l with
  | nil => cases h
  | cons a rest ih =>
    rw [List.mapM_cons] at h
    rcases bind_error.mp h with h | ⟨b, -, h⟩
    · exact ⟨a, List.mem_cons_self, h⟩
    rcases bind_error.mp h with h | ⟨bs, -, h⟩
    · obtain ⟨a', ha', herror⟩ := ih h
      exact ⟨a', List.mem_cons_of_mem _ ha', herror⟩
    · cases h

end

section
variable {S : Type}

theorem run_pure (a : α) (s : S) : (pure a : ExceptT Fault (StateM S) α) s = (.ok a, s) := rfl

theorem run_fail (i : Incident) (w : World S) :
    (Engine.fail i : Engine S α) w = (.error (.own i), w) := rfl

theorem run_bind (x : ExceptT Fault (StateM S) α) (f : α → ExceptT Fault (StateM S) β) (s : S) :
    (x >>= f) s = match x s with
      | (.ok a, s) => f a s
      | (.error e, s) => (.error e, s) := by
  simp only [bind, ExceptT.bind, ExceptT.mk, StateT.bind, ExceptT.bindCont]
  cases x s with
  | mk result s => cases result <;> rfl

theorem run_bind_of_ok {x : ExceptT Fault (StateM S) α} {f : α → ExceptT Fault (StateM S) β}
    (h : x s = (.ok a, s')) : (x >>= f) s = f a s' := by
  rw [run_bind, h]

theorem run_bind_ok {x : ExceptT Fault (StateM S) α} {f : α → ExceptT Fault (StateM S) β}
    (h : (x >>= f) s = (.ok b, s')) : ∃ a s₁, x s = (.ok a, s₁) ∧ f a s₁ = (.ok b, s') := by
  rw [run_bind] at h
  cases hx : x s with
  | mk result s₁ =>
    cases result with
    | ok a => exact ⟨a, s₁, rfl, by simpa only [hx] using h⟩
    | error e =>
      rw [hx] at h
      cases h

theorem run_mapM_ok {f : α → ExceptT Fault (StateM S) β} {l : List α}
    (h : l.mapM f s = (.ok bs, s')) :
    List.Forall₂ (fun a b => ∃ s₁ s₂, f a s₁ = (.ok b, s₂)) l bs := by
  induction l generalizing s bs with
  | nil =>
    rw [List.mapM_nil] at h
    cases h
    exact .nil
  | cons a rest ih =>
    rw [List.mapM_cons] at h
    obtain ⟨b, s₁, hb, h⟩ := run_bind_ok h
    obtain ⟨bs, s₂, hrest, h⟩ := run_bind_ok h
    cases h
    exact .cons ⟨s, s₁, hb⟩ (ih hrest)

end

namespace Engine

theorem ofForeign_ok {x : Except Foreign α} {w : World σ} (h : ofForeign x w = (.ok a, w')) :
    x = .ok a ∧ w' = w := by
  cases x with
  | ok b => cases h; exact ⟨rfl, rfl⟩
  | error f => cases h

theorem not_fail_ok {w : World σ} (h : (fail i : Engine σ α) w = (.ok a, w')) : False := by
  cases h

end Engine
end DependencyGate
