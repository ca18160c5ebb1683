import DependencyGate.History.Lookup
import DependencyGate.Proofs.History.Kept
import Mathlib

/-!
# The greatest of the rows

Lookups order rows by a time and then by id. That order is the one of a key in which a
missing time is the least (`earlier_iff`), and of rows with different ids the lookup finds
the one with the greatest key, in whatever order they are listed (`latest?_eq_some_iff`).
-/

namespace DependencyGate.History

open Time (Moment Interval)

-- ---------------------------------------------------------------------------
-- Keys
-- ---------------------------------------------------------------------------

/-- A time by the reading of its clock; a missing one comes before all others. -/
def timeKey (m : Option Moment) : WithBot Int := m.elim ⊥ fun m => (m.wall : WithBot Int)

def orderKey (time : Option Moment) (id : Int) : WithBot Int ×ₗ Int := toLex (timeKey time, id)

theorem timeRank_lt_iff {a b : Option Moment} :
    timeRank a < timeRank b ↔ timeKey a < timeKey b := by
  -- No reading is negative, so -1 is free to rank a missing time.
  cases a with
  | none =>
    cases b with
    | none => simp [timeRank, timeKey]
    | some b =>
      have hb := b.wall_mem.1
      simp only [timeRank, timeKey, Option.elim_none, Option.elim_some, WithBot.bot_lt_coe,
        iff_true]
      omega
  | some a =>
    cases b with
    | none =>
      have ha := a.wall_mem.1
      simp only [timeRank, timeKey, Option.elim_none, Option.elim_some, not_lt_bot, iff_false]
      omega
    | some b => simp [timeRank, timeKey]

theorem timeRank_eq_iff {a b : Option Moment} :
    timeRank a = timeRank b ↔ timeKey a = timeKey b := by
  constructor
  · intro h
    exact le_antisymm (not_lt.mp (mt timeRank_lt_iff.mpr h.not_gt))
      (not_lt.mp (mt timeRank_lt_iff.mpr h.not_lt))
  · intro h
    exact le_antisymm (not_lt.mp (mt timeRank_lt_iff.mp h.not_gt))
      (not_lt.mp (mt timeRank_lt_iff.mp h.not_lt))

theorem earlier_iff {time₁ time₂ : Option Moment} :
    earlier time₁ id₁ time₂ id₂ = true ↔ orderKey time₁ id₁ < orderKey time₂ id₂ := by
  simp only [earlier, orderKey, Bool.or_eq_true, Bool.and_eq_true, decide_eq_true_eq, beq_iff_eq,
    Prod.Lex.toLex_lt_toLex, timeRank_lt_iff, timeRank_eq_iff]

-- ---------------------------------------------------------------------------
-- The greatest of a list
-- ---------------------------------------------------------------------------

/-- One of those with a property, whose key is the greatest of them all. -/
structure Greatest {α κ : Type} [LE κ] (key : α → κ) (p : α → Prop) (a : α) : Prop where
  holds : p a
  le : ∀ b, p b → key b ≤ key a

section
variable {α κ : Type} {before : α → α → Bool}

theorem greatest?_eq_none_iff {l : List α} : greatest? before l = none ↔ l = [] := by
  cases l with
  | nil => exact ⟨fun _ => rfl, fun _ => rfl⟩
  | cons a rest =>
    simp only [greatest?, reduceCtorEq, iff_false]
    split
    · simp
    · split <;> simp

variable [LinearOrder κ] {key : α → κ}

theorem greatest?_greatest (hkey : ∀ a b, before a b = true ↔ key a < key b) {l : List α}
    (h : greatest? before l = some a) : Greatest key (· ∈ l) a := by
  induction l generalizing a with
  | nil => cases h
  | cons b rest ih =>
    unfold greatest? at h
    split at h
    next hrest =>
      cases h
      rw [greatest?_eq_none_iff.mp hrest]
      exact ⟨List.mem_singleton_self b, fun c hc => (congrArg key (List.mem_singleton.mp hc)).le⟩
    next c hrest =>
      obtain ⟨hmem, hle⟩ := ih hrest
      split at h
      next hbefore =>
        cases h
        refine ⟨List.mem_cons_of_mem b hmem, fun d hd => ?_⟩
        rcases List.mem_cons.mp hd with rfl | hd
        · exact ((hkey d a).mp hbefore).le
        · exact hle d hd
      next hbefore =>
        cases h
        have hcb : key c ≤ key b := not_lt.mp (mt (hkey b c).mpr hbefore)
        refine ⟨List.mem_cons_self, fun d hd => ?_⟩
        rcases List.mem_cons.mp hd with rfl | hd
        · exact le_rfl
        · exact (hle d hd).trans hcb

theorem Greatest.unique {p : α → Prop} (hinj : ∀ a b, p a → p b → key a = key b → a = b)
    (ha : Greatest key p a) (hb : Greatest key p b) : a = b :=
  hinj a b ha.holds hb.holds (le_antisymm (hb.le a ha.holds) (ha.le b hb.holds))

theorem Greatest.congr {p q : α → Prop} (h : ∀ a, p a ↔ q a) :
    Greatest key p a ↔ Greatest key q a := by
  rw [funext fun a => propext (h a)]

theorem Greatest.found_iff {p : α → Prop} {found : Option α}
    (hinj : ∀ a b, p a → p b → key a = key b → a = b)
    (hsome : ∀ a, found = some a → Greatest key p a) (hnone : found = none → ∀ a, ¬ p a) :
    found = some a ↔ Greatest key p a := by
  refine ⟨hsome a, fun ha => ?_⟩
  cases hfound : found with
  | none => exact absurd ha.holds (hnone hfound a)
  | some b => rw [Greatest.unique hinj (hsome b hfound) ha]

theorem greatest?_eq_some_iff (hkey : ∀ a b, before a b = true ↔ key a < key b) {l : List α}
    (hinj : ∀ a b, a ∈ l → b ∈ l → key a = key b → a = b) :
    greatest? before l = some a ↔ Greatest key (· ∈ l) a := by
  refine Greatest.found_iff hinj (fun _ => greatest?_greatest hkey) fun hnone b hb => ?_
  rw [greatest?_eq_none_iff.mp hnone] at hb
  cases hb

theorem Greatest.or {p q : α → Prop} (ha : Greatest key p a) (hb : ∀ b, q b → key b ≤ key a) :
    Greatest key (fun c => p c ∨ q c) a where
  holds := .inl ha.holds
  le := by
    rintro c (hc | hc)
    · exact ha.le c hc
    · exact hb c hc

/-- A greatest stays one under any key that orders those with the property alike. -/
theorem Greatest.of_le {κ' : Type} [LE κ'] {key' : α → κ'} {p : α → Prop}
    (ha : Greatest key p a) (hle : ∀ b, p b → key b ≤ key a → key' b ≤ key' a) :
    Greatest key' p a := ⟨ha.holds, fun b hb => hle b hb (ha.le b hb)⟩

end

-- ---------------------------------------------------------------------------
-- The latest of the matching rows
-- ---------------------------------------------------------------------------

def ProcessRow.startKey (r : ProcessRow) : WithBot Int ×ₗ Int := orderKey r.start r.id

def ProcessRow.stopKey (r : ProcessRow) : WithBot Int ×ₗ Int := orderKey r.stop r.id

theorem ProcessRow.startsBefore_iff (a b : ProcessRow) :
    a.startsBefore b = true ↔ a.startKey < b.startKey := earlier_iff

theorem ProcessRow.stopsBefore_iff (a b : ProcessRow) :
    a.stopsBefore b = true ↔ a.stopKey < b.stopKey := earlier_iff

theorem orderKey_id {time₁ time₂ : Option Moment} (h : orderKey time₁ id₁ = orderKey time₂ id₂) :
    id₁ = id₂ := congrArg (fun key => (ofLex key).2) h

def Tables.OfDefinition (t : Tables) (definitionId : Int) (p : ProcessRow → Prop)
    (r : ProcessRow) : Prop := r ∈ t.processes ∧ r.definitionId = definitionId ∧ p r

theorem Tables.ofDefinition_or {t : Tables} :
    t.OfDefinition n (fun r => p r ∨ q r) r ↔ t.OfDefinition n p r ∨ t.OfDefinition n q r := by
  unfold OfDefinition
  tauto

theorem Tables.ofDefinition_perm {t t' : Tables} (h : t'.processes.Perm t.processes) (n : Int)
    (p : ProcessRow → Prop) : t'.OfDefinition n p = t.OfDefinition n p := by
  funext r
  rw [OfDefinition, OfDefinition, h.mem_iff]

section
variable {t : Tables} {n : Int} {p : ProcessRow → Prop} {matching : ProcessRow → Bool}
  (hmatching : ∀ r, matching r = true ↔ p r)
include hmatching

theorem Tables.mem_matching_iff :
    r ∈ (t.processes.filter fun r => r.definitionId == n && matching r) ↔ t.OfDefinition n p r := by
  simp only [List.mem_filter, Bool.and_eq_true, beq_iff_eq, hmatching, OfDefinition]

theorem Tables.latest?_eq_none_iff {before : ProcessRow → ProcessRow → Bool} :
    t.latest? n matching before = none ↔ ∀ r, ¬ t.OfDefinition n p r := by
  rw [latest?, greatest?_eq_none_iff, List.eq_nil_iff_forall_not_mem]
  exact forall_congr' fun _ => not_congr (mem_matching_iff hmatching)

theorem Tables.latest?_eq_some_iff
    (ht : KeptRows ProcessRow.id ProcessRow.stored t.processes)
    {before : ProcessRow → ProcessRow → Bool} {time : ProcessRow → Option Moment}
    (hbefore : ∀ a b, before a b = true ↔ orderKey (time a) a.id < orderKey (time b) b.id) :
    t.latest? n matching before = some r ↔
      Greatest (fun r => orderKey (time r) r.id) (t.OfDefinition n p) r := by
  rw [latest?, greatest?_eq_some_iff hbefore]
  · exact Greatest.congr fun _ => mem_matching_iff hmatching
  · intro a b ha hb hkey
    exact ht.eq_of_id ((mem_matching_iff hmatching).mp ha).1 ((mem_matching_iff hmatching).mp hb).1
      (orderKey_id hkey)

end
end DependencyGate.History
