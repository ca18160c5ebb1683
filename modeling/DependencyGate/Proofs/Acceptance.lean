import DependencyGate.Proofs.Computation

/-!
# What an accepted declaration has

A gate is only made from a declaration whose keys can be looked up and are pairwise
different (`Gate.make_ok`). Nothing is remembered in it yet and its verdict is open.
-/

namespace DependencyGate

open Json (Value)

theorem sameKey_iff {v w : Value} : v.sameKey w = true ↔ v.asKey = w.asKey := by
  simp [Value.sameKey]

theorem sameKey_refl (v : Value) : v.sameKey v = true := sameKey_iff.mpr rfl

theorem sameKey_comm (v w : Value) : v.sameKey w = w.sameKey v := by
  rw [Bool.eq_iff_iff, sameKey_iff, sameKey_iff]
  exact eq_comm

/-- Every key can be looked up, and no two items have the same one. -/
structure Keyed (items : List Item) : Prop where
  usable : ∀ item ∈ items, item.key.isKey = true
  distinct : items.Pairwise fun a b => a.key.sameKey b.key = false

theorem Keyed.nil : Keyed [] := ⟨by simp, .nil⟩

theorem Keyed.cons (hk : item.key.isKey = true)
    (hd : ∀ other ∈ rest, item.key.sameKey other.key = false) (h : Keyed rest) :
    Keyed (item :: rest) :=
  ⟨List.forall_mem_cons.mpr ⟨hk, h.usable⟩, .cons hd h.distinct⟩

theorem Keyed.tail (h : Keyed (item :: rest)) : Keyed rest :=
  ⟨fun i hi => h.usable i (List.mem_cons_of_mem _ hi), (List.pairwise_cons.mp h.distinct).2⟩

theorem Keyed.head (h : Keyed (item :: rest)) :
    item.key.isKey = true ∧ ∀ other ∈ rest, item.key.sameKey other.key = false :=
  ⟨h.usable item List.mem_cons_self, (List.pairwise_cons.mp h.distinct).1⟩

theorem Keyed.eq_of_sameKey (h : Keyed items) (ha : a ∈ items) (hb : b ∈ items)
    (hk : a.key.sameKey b.key = true) : a = b := by
  induction items with
  | nil => cases ha
  | cons item rest ih =>
    rcases List.mem_cons.mp ha with rfl | ha'
    · rcases List.mem_cons.mp hb with rfl | hb'
      · rfl
      · rw [h.head.2 b hb'] at hk
        cases hk
    · rcases List.mem_cons.mp hb with rfl | hb'
      · rw [sameKey_comm, h.head.2 a ha'] at hk
        cases hk
      · exact ih h.tail ha' hb'

theorem checkKey_ok {v : Value} (h : checkKey v = .ok u) : v.isKey = true := by
  unfold checkKey at h
  split at h
  · assumption
  · cases h

section
variable {σ : Type} {c : Collaborators σ} {w w' : World σ}

theorem Item.validate_ok {item : Item} (h : item.validate c seen w = (.ok (), w')) :
    item.key.isKey = true ∧ ∀ key ∈ seen, item.key.sameKey key = false := by
  obtain ⟨_, w₁, hk, h⟩ := run_bind_ok h
  refine ⟨checkKey_ok (Engine.ofForeign_ok hk).1, ?_⟩
  by_cases hs : seen.any item.key.sameKey = true
  · rw [if_pos hs] at h
    exact (Engine.not_fail_ok h).elim
  · simpa using hs

theorem validateItems_ok {items : List Item} (h : validateItems c seen items w = (.ok (), w')) :
    Keyed items ∧ ∀ item ∈ items, ∀ key ∈ seen, item.key.sameKey key = false := by
  induction items generalizing seen w with
  | nil => exact ⟨.nil, by simp⟩
  | cons item rest ih =>
    obtain ⟨_, w₁, hi, hr⟩ := run_bind_ok h
    obtain ⟨hk, hs⟩ := Item.validate_ok hi
    obtain ⟨hrest, hseen⟩ := ih hr
    refine ⟨.cons hk (fun other ho => ?_) hrest, List.forall_mem_cons.mpr ⟨hs, fun other ho => ?_⟩⟩
    · rw [sameKey_comm]
      exact hseen other ho item.key List.mem_cons_self
    · exact fun key hkey => hseen other ho key (List.mem_cons_of_mem _ hkey)

theorem Declaration.validate_ok {d : Declaration} (h : d.validate c w = (.ok r, w')) :
    Keyed d.items ∧ d.relation = .known r := by
  unfold Declaration.validate at h
  cases hr : d.relation with
  | other v =>
    rw [hr] at h
    exact (Engine.not_fail_ok h).elim
  | known r' =>
    simp only [hr] at h
    split at h
    · exact (Engine.not_fail_ok h).elim
    · obtain ⟨_, w₁, hi, h⟩ := run_bind_ok h
      obtain ⟨_, w₂, _, h⟩ := run_bind_ok h
      cases h
      exact ⟨(validateItems_ok hi).1, rfl⟩

theorem Parameters.validate_ok {p : Parameters} (h : p.validate = .ok outer) :
    p.declarations ≠ [] ∧ p.relation = .known outer := by
  unfold Parameters.validate at h
  split at h
  next => cases h
  next hne =>
    split at h
    next hknown =>
      cases h
      exact ⟨by simpa using hne, hknown⟩
    next => cases h

theorem Gate.make_ok {d : Declaration} {g : Gate} (h : Gate.make c d w = (.ok g, w')) :
    Keyed d.items ∧ ∃ r, d.relation = .known r ∧ g = { items := d.items, relation := r } := by
  obtain ⟨r, w₁, hv, h⟩ := run_bind_ok h
  obtain ⟨hk, hr⟩ := Declaration.validate_ok hv
  cases h
  exact ⟨hk, r, hr, rfl⟩

end
end DependencyGate
