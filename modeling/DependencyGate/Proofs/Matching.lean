import Mathlib.Data.List.Chain
import Mathlib.Data.List.Forall2

/-!
# Lists that match

What the elements of two lists of one length have in common, one by one, the lists have in
common. The library states it as `List.Forall₂`; here is what follows for members, for
neighbours and for a third list.
-/

namespace DependencyGate

variable {α β γ : Type} {R : α → β → Prop} {l : List α} {bs : List β}

theorem exists_of_forall₂ (h : List.Forall₂ R l bs) (hb : b ∈ bs) : ∃ a ∈ l, R a b := by
  induction h with
  | nil => cases hb
  | cons hab _ ih =>
    rcases List.mem_cons.mp hb with rfl | hb
    · exact ⟨_, List.mem_cons_self, hab⟩
    · obtain ⟨a, ha, hab⟩ := ih hb
      exact ⟨a, List.mem_cons_of_mem _ ha, hab⟩

theorem forall₂_and_right {p : β → Prop} :
    List.Forall₂ (fun a b => R a b ∧ p b) l bs ↔ List.Forall₂ R l bs ∧ ∀ b ∈ bs, p b := by
  constructor
  · intro h
    induction h with
    | nil => exact ⟨.nil, List.forall_mem_nil _⟩
    | cons hab _ ih => exact ⟨.cons hab.1 ih.1, List.forall_mem_cons.mpr ⟨hab.2, ih.2⟩⟩
  · rintro ⟨h, hp⟩
    induction h with
    | nil => exact .nil
    | cons hab _ ih =>
      obtain ⟨hb, hrest⟩ := List.forall_mem_cons.mp hp
      exact .cons ⟨hab, hb⟩ (ih hrest)

theorem forall₂_then {S : β → γ → Prop} {cs : List γ} :
    List.Forall₂ (fun a c => ∃ b, R a b ∧ S b c) l cs ↔
      ∃ bs, List.Forall₂ R l bs ∧ List.Forall₂ S bs cs := by
  constructor
  · intro h
    induction h with
    | nil => exact ⟨[], .nil, .nil⟩
    | cons hac _ ih =>
      obtain ⟨b, hab, hbc⟩ := hac
      obtain ⟨bs, hleft, hright⟩ := ih
      exact ⟨b :: bs, .cons hab hleft, .cons hbc hright⟩
  · rintro ⟨bs, hleft, hright⟩
    induction hleft generalizing cs with
    | nil =>
      cases hright
      exact .nil
    | cons hab _ ih =>
      cases hright with
      | cons hbc hrest => exact .cons ⟨_, hab, hbc⟩ (ih hrest)

theorem ne_nil_of_forall₂ (h : List.Forall₂ R l bs) : l ≠ [] ↔ bs ≠ [] := by
  cases h <;> simp

theorem map_eq_of_forall₂ {f : α → γ} {g : β → γ} (hfg : ∀ a b, R a b → g b = f a)
    (h : List.Forall₂ R l bs) : bs.map g = l.map f := by
  induction h with
  | nil => rfl
  | cons hab _ ih => rw [List.map_cons, List.map_cons, hfg _ _ hab, ih]

theorem find?_of_forall₂ {p : α → Bool} {q : β → Bool} (hpq : ∀ a b, R a b → q b = p a)
    (h : List.Forall₂ R l bs) :
    (∃ a b, l.find? p = some a ∧ bs.find? q = some b ∧ R a b) ∨
      l.find? p = none ∧ bs.find? q = none := by
  induction h with
  | nil => exact .inr ⟨rfl, rfl⟩
  | @cons a b _ _ hab _ ih =>
    cases hp : p a with
    | true =>
      have hq : q b = true := (hpq a b hab).trans hp
      exact .inl ⟨a, b, List.find?_cons_of_pos hp, List.find?_cons_of_pos hq, hab⟩
    | false =>
      have hq : q b = false := (hpq a b hab).trans hp
      simpa only [List.find?_cons, hp, hq] using ih

theorem isChain_of_forall₂ {P : α → α → Prop} {Q : β → β → Prop}
    (hstep : ∀ a a' b b', R a b → R a' b' → P a a' → Q b b') (h : List.Forall₂ R l bs)
    (hl : l.IsChain P) : bs.IsChain Q := by
  induction h with
  | nil => exact .nil
  | cons hab hrest ih =>
    cases hrest with
    | nil => exact .singleton _
    | cons hab' hrest =>
      obtain ⟨hp, hl⟩ := List.isChain_cons_cons.mp hl
      exact .cons_cons (hstep _ _ _ _ hab hab' hp) (ih hl)

end DependencyGate
