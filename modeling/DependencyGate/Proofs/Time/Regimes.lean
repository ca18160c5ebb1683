import DependencyGate.Time.Zone
import Mathlib.Data.List.Chain

/-!
# Regimes of a zone

The changes of a regular table are three and a half days apart or more. Whatever happens on its
clock, it happens within less, so that only one change has a part in it: around every reading the
regime is a step from one to another (`Regular.around`).
-/

namespace DependencyGate.Time.ZoneTable

def regimes (t : ZoneTable) : List Regime := t.first :: t.changes.map Change.regime

/-- The least number of seconds between two changes of a regular table. -/
def leastGap : Int := 302400

/-- The most minutes by which a change of a regular table sets the clock. -/
def greatestJump : Int := 1500

/-- Changes are apart from each other and from the ends of the calendar, and set the clock by
little more than a day at most. -/
structure Regular (t : ZoneTable) : Prop where
  apart : t.changes.IsChain fun a b => a.second + leastGap ≤ b.second
  inside : ∀ c ∈ t.changes, 604800 ≤ c.second ∧ c.second + 604800 ≤ 315537897600
  offsets : ∀ r ∈ t.regimes, -1440 < r.offset ∧ r.offset < 1440
  jumps : t.regimes.IsChain fun a b =>
    a.offset ≤ b.offset + greatestJump ∧ b.offset ≤ a.offset + greatestJump

/-- From 57 hours before a reading to 27 hours after it, the one regime is in force up to a change
and the other from it on. -/
structure Around (t : ZoneTable) (center change : Int) (before after : Regime) : Prop where
  early : ∀ u, center - 57 * hour ≤ u → u < center + 27 * hour → u < change →
    t.regimeAt u = before
  late : ∀ u, center - 57 * hour ≤ u → u < center + 27 * hour → change ≤ u →
    t.regimeAt u = after
  inside : center - 57 * hour < change → change < center + 27 * hour →
    7 * dayLength ≤ change ∧ change + 7 * dayLength ≤ wallLimit
  beforeOffset : -1440 < before.offset ∧ before.offset < 1440
  afterOffset : -1440 < after.offset ∧ after.offset < 1440
  jump : before.offset ≤ after.offset + greatestJump ∧ after.offset ≤ before.offset + greatestJump

-- ---------------------------------------------------------------------------
-- One change at a time
-- ---------------------------------------------------------------------------

theorem regimeFrom_of_before {changes : List Change} (h : ∀ c ∈ changes.head?, s < c.second) :
    regimeFrom current changes s = current := by
  cases changes with
  | nil => rfl
  | cons c rest => rw [regimeFrom, if_neg (Int.not_le.mpr (h c rfl))]

theorem regimeFrom_steps {changes : List Change} {related : Regime → Regime → Prop}
    (hrefl : ∀ r, related r r) (lo hi : Int) (hshort : hi ≤ lo + leastGap * second)
    (hapart : changes.IsChain fun a b => a.second + leastGap ≤ b.second)
    (hrelated : (current :: changes.map Change.regime).IsChain related) :
    ∃ change before after, before ∈ current :: changes.map Change.regime ∧
      after ∈ current :: changes.map Change.regime ∧ related before after ∧
      (lo < change → change < hi → ∃ c ∈ changes, change = c.second * second) ∧
      ∀ u, lo ≤ u → u < hi →
        regimeFrom current changes (u / second) = if u < change then before else after := by
  induction changes generalizing current with
  | nil =>
    refine ⟨hi, current, current, List.mem_cons_self, List.mem_cons_self, hrefl current, ?_, ?_⟩
    · intro _ hlt
      omega
    · intro u _ _
      rw [ite_self]
      rfl
  | cons c rest ih =>
    have hnext : ∀ c' ∈ rest.head?, c.second + leastGap ≤ c'.second := by
      intro c' hc'
      cases rest with
      | nil => cases hc'
      | cons d rest =>
        cases hc'
        exact (List.isChain_cons_cons.mp hapart).1
    rw [List.map_cons, List.isChain_cons_cons] at hrelated
    by_cases hpassed : c.second * second ≤ lo
    · obtain ⟨change, before, after, hbefore, hafter, hstep, hwhere, hlook⟩ :=
        ih hapart.tail hrelated.2
      refine ⟨change, before, after, List.mem_cons_of_mem _ hbefore, List.mem_cons_of_mem _ hafter,
        hstep, fun hlo hhi => ?_, fun u hlo hhi => ?_⟩
      · obtain ⟨d, hd, hchange⟩ := hwhere hlo hhi
        exact ⟨d, List.mem_cons_of_mem _ hd, hchange⟩
      · rw [regimeFrom, if_pos (by simp only [second] at *; omega), hlook u hlo hhi]
    · refine ⟨c.second * second, current, c.regime, List.mem_cons_self,
        List.mem_cons_of_mem _ List.mem_cons_self, hrelated.1,
        fun _ _ => ⟨c, List.mem_cons_self, rfl⟩, fun u hlo hhi => ?_⟩
      -- The changes after this one come too late for the window.
      have hrest : regimeFrom c.regime rest (u / second) = c.regime := by
        refine regimeFrom_of_before fun c' hc' => ?_
        have := hnext c' hc'
        simp only [second] at *
        omega
      rw [regimeFrom, hrest]
      by_cases hu : u < c.second * second
      · rw [if_pos hu, if_neg (by simp only [second] at *; omega)]
      · rw [if_neg hu, if_pos (by simp only [second] at *; omega)]

theorem Regular.around {t : ZoneTable} (ht : t.Regular) (center : Int) :
    ∃ change before after, t.Around center change before after := by
  obtain ⟨change, before, after, hbefore, hafter, hjump, hwhere, hlook⟩ :=
    regimeFrom_steps (fun _ => by simp only [greatestJump]; omega) (center - 57 * hour)
      (center + 27 * hour) (by simp only [leastGap, second, hour]; omega) ht.apart ht.jumps
  refine ⟨change, before, after, ?_, ?_, ?_, ht.offsets _ hbefore, ht.offsets _ hafter, hjump⟩
  · intro u hlo hhi hu
    rw [regimeAt, hlook u hlo hhi, if_pos hu]
  · intro u hlo hhi hu
    rw [regimeAt, hlook u hlo hhi, if_neg (Int.not_lt.mpr hu)]
  · intro hlo hhi
    obtain ⟨c, hc, rfl⟩ := hwhere hlo hhi
    have := ht.inside c hc
    simp only [second, hour, dayLength, wallLimit] at *
    omega

end ZoneTable

-- ---------------------------------------------------------------------------
-- Zones
-- ---------------------------------------------------------------------------

instance (t : ZoneTable) : Decidable t.Regular :=
  decidable_of_iff
    ((t.changes.IsChain fun a b => a.second + ZoneTable.leastGap ≤ b.second) ∧
      (∀ c ∈ t.changes, 604800 ≤ c.second ∧ c.second + 604800 ≤ 315537897600) ∧
      (∀ r ∈ t.regimes, -1440 < r.offset ∧ r.offset < 1440) ∧
      t.regimes.IsChain fun a b => a.offset ≤ b.offset + ZoneTable.greatestJump ∧
        b.offset ≤ a.offset + ZoneTable.greatestJump)
    ⟨fun ⟨h₁, h₂, h₃, h₄⟩ => ⟨h₁, h₂, h₃, h₄⟩, fun ⟨h₁, h₂, h₃, h₄⟩ => ⟨h₁, h₂, h₃, h₄⟩⟩

/-- A fixed offset of less than a day, or a regular table. -/
def Zone.Regular : Zone → Prop
  | .fixed offset => -1440 < offset ∧ offset < 1440
  | .table t => t.Regular

instance : (z : Zone) → Decidable z.Regular
  | .fixed offset => inferInstanceAs (Decidable (-1440 < offset ∧ offset < 1440))
  | .table t => inferInstanceAs (Decidable t.Regular)

end DependencyGate.Time
