import DependencyGate.Proofs.Time.Localize

/-!
# The offset in force

At every instant a zone's clock is ahead of UTC by the offset in force (`Zone.aheadAt`). Conversion
and normalization give what the clock shows at the instant of a moment (`Zone.atInstant_ok`,
`Zone.normalize_ok`). A reading that the clock shows at all, once or twice, is settled on an
instant at which it shows it (`Zone.localize_shown`); a skipped reading is shown at none.
-/

namespace DependencyGate.Time

namespace Zone

def aheadAt (z : Zone) (instant : Int) : Int :=
  match z with
  | .fixed offset => offset * minute
  | .table t => (t.regimeAt instant).ahead

def ShowsAt (z : Zone) (instant : Int) (m : Moment) : Prop :=
  m.Shows (instant + z.aheadAt instant) (z.aheadAt instant)

def Shown (z : Zone) (wall : Int) : Prop := ∃ instant, instant + z.aheadAt instant = wall

/-- A fixed zone gives moments of its own offset only. -/
def Carries (z : Zone) (offset : Option Int) : Prop :=
  match z with
  | .fixed own => offset = some (own * minute)
  | .table _ => True

theorem ShowsAt.instant {z : Zone} {instant : Int} (h : z.ShowsAt instant m) :
    m.instant = instant := by
  rw [Moment.Shows.instant h]
  omega

end Zone

-- ---------------------------------------------------------------------------
-- From instants to readings
-- ---------------------------------------------------------------------------

theorem ofWall_inside (h : 0 ≤ wall ∧ wall < wallLimit) (offset : Option Int) :
    ∃ m, Moment.ofWall wall offset = .ok m ∧ m.wall = wall ∧ m.offset = offset :=
  ⟨⟨wall, offset, h⟩, dif_pos h, rfl, rfl⟩

theorem ofWall_outside (h : ¬ (0 ≤ wall ∧ wall < wallLimit)) (offset : Option Int) :
    Moment.ofWall wall offset = .error .outOfRange := dif_neg h

namespace Zone

variable {z : Zone} {m m' : Moment} {instant : Int}

theorem atInstant_congr (z : Zone) {a b : Moment} (h : a.instant = b.instant) :
    z.atInstant a = z.atInstant b := by
  unfold atInstant
  rw [h]

theorem atInstant_inside (h : 0 ≤ m.instant ∧ m.instant < wallLimit) : z.atInstant m =
    Moment.ofWall (m.instant + z.aheadAt m.instant) (some (z.aheadAt m.instant)) := by
  obtain ⟨utc, hutc, hwall, -⟩ := ofWall_inside h none
  cases z with
  | fixed offset => simp only [atInstant, hutc, hwall, aheadAt]
  | table t => simp only [atInstant, hutc, hwall, aheadAt, ZoneTable.atUtc, Regime.ahead]

theorem atInstant_ok : z.atInstant m = .ok m' ↔
    (0 ≤ m.instant ∧ m.instant < wallLimit) ∧ z.ShowsAt m.instant m' := by
  by_cases hinside : 0 ≤ m.instant ∧ m.instant < wallLimit
  · rw [atInstant_inside hinside, ofWall_ok]
    exact ⟨fun h => ⟨hinside, h.1, h.2⟩, fun h => ⟨h.2.wall, h.2.offset⟩⟩
  · rw [atInstant, ofWall_outside hinside]
    exact ⟨nofun, fun h => absurd h.1 hinside⟩

theorem normalize_ok (hm : z.Carries m.offset) (h : z.normalize m = .ok m') :
    z.ShowsAt m.instant m' := by
  cases z with
  | fixed offset =>
    cases h
    have hoffset : m.offset = some (offset * minute) := hm
    refine ⟨?_, hoffset⟩
    rw [Moment.instant, hoffset, Option.getD_some, aheadAt]
    omega
  | table t => exact (atInstant_ok (z := .table t)).mp h |>.2

theorem carries_own (z : Zone) : z.Carries (some z.ownOffset) := by
  cases z with
  | fixed offset => rfl
  | table t => trivial

theorem ShowsAt.carries (h : z.ShowsAt instant m) : z.Carries m.offset := by
  cases z with
  | fixed offset => exact h.offset
  | table t => trivial

theorem localize_carries (h : z.localize m = .ok m') : z.Carries m'.offset := by
  cases z with
  | fixed offset =>
    cases h
    rfl
  | table t => trivial

end Zone

-- ---------------------------------------------------------------------------
-- Readings that are shown
-- ---------------------------------------------------------------------------

namespace ZoneTable

variable {t : ZoneTable} {wall near : Int}

theorem candidate_inForce (h : t.candidate wall near = .ok (some m)) :
    m.Shows wall (t.regimeAt m.instant).ahead := by
  by_cases hnear : 0 ≤ near ∧ near < wallLimit
  · obtain ⟨hshows, hsome⟩ := candidate_ok hnear h
    have hm := hshows m rfl
    refine ⟨hm.wall, ?_⟩
    rw [hm.offset, hm.instant, hsome.mp rfl]
  · rw [candidate_outside hnear] at h
    cases h

theorem candidate_of_shown {found : Option Moment} (hnear : 0 ≤ near ∧ near < wallLimit)
    (hshown : instant + (t.regimeAt instant).ahead = wall)
    (hsame : (t.regimeAt near).ahead = (t.regimeAt instant).ahead)
    (h : t.candidate wall near = .ok found) : found.isSome := by
  rw [(candidate_ok hnear h).2, hsame, ← hshown, Int.add_sub_cancel]

theorem localizeWithin_found {early late : Option Moment} (fuel : Nat)
    (hearly : t.candidate wall (wall - dayLength) = .ok early)
    (hlate : t.candidate wall (wall + dayLength) = .ok late)
    (hfound : early.isSome ∨ late.isSome) :
    ∃ m, t.localizeWithin (fuel + 1) wall = .ok m ∧ (early = some m ∨ late = some m) := by
  unfold localizeWithin
  rw [hearly, hlate]
  cases early with
  | none =>
    cases late with
    | none => simp at hfound
    | some b => exact ⟨b, rfl, .inr rfl⟩
  | some a =>
    cases late with
    | none => exact ⟨a, rfl, .inl rfl⟩
    | some b =>
      obtain heq | heq := choose_eq (t := t) a b
      · exact ⟨a, congrArg _ heq, .inl rfl⟩
      · exact ⟨b, congrArg _ heq, .inr rfl⟩

section
variable {change : Int} {before after : Regime} (ht : t.Around wall change before after)
include ht

theorem Around.ahead_cases (hlo : wall - 57 * hour ≤ u) (hhi : u < wall + 27 * hour) :
    u < change ∧ (t.regimeAt u).ahead = before.ahead ∨
      change ≤ u ∧ (t.regimeAt u).ahead = after.ahead := by
  by_cases hu : u < change
  · exact .inl ⟨hu, by rw [ht.early u hlo hhi hu]⟩
  · exact .inr ⟨Int.not_lt.mp hu, by rw [ht.late u hlo hhi (Int.not_lt.mp hu)]⟩

theorem Around.candidate_returns (hearly : dayLength ≤ wall) (hlate : wall + dayLength < wallLimit)
    (hlo : wall - dayLength ≤ near) (hhi : near ≤ wall + dayLength) :
    ∃ found, t.candidate wall near = .ok found := by
  have hbounds := ht.bounds
  have hday : dayLength = 24 * hour ∧ 0 < hour := by decide
  have hnear := ht.ahead_cases (u := near) (by omega) (by omega)
  have hthen := ht.ahead_cases (u := wall - (t.regimeAt near).ahead) (by omega) (by omega)
  have hutc : 0 ≤ wall - (t.regimeAt near).ahead ∧ wall - (t.regimeAt near).ahead < wallLimit := by
    omega
  obtain ⟨utc, hutc, hwall, -⟩ := ofWall_inside hutc none
  rw [← hwall] at hthen
  -- Under another offset than the one near it there is a change, which is far from the ends.
  have hinside := ht.inside
  have hread : 0 ≤ utc.wall + (t.regimeAt utc.wall).ahead ∧
      utc.wall + (t.regimeAt utc.wall).ahead < wallLimit := by
    omega
  obtain ⟨m, hm, -⟩ := ofWall_inside hread (some (t.regimeAt utc.wall).ahead)
  have hnormal : t.normalize wall ((t.regimeAt near).offset * minute) = .ok m := by
    have hahead : (t.regimeAt near).offset * minute = (t.regimeAt near).ahead := rfl
    rw [normalize, hahead, hutc]
    exact hm
  refine ⟨if m.wall = wall then some m else none, ?_⟩
  rw [candidate, if_pos (by omega), hnormal]

theorem Around.localize_shown (hearly : dayLength ≤ wall) (hlate : wall + dayLength < wallLimit)
    (hshown : instant + (t.regimeAt instant).ahead = wall)
    (hinstant : wall - dayLength < instant ∧ instant < wall + dayLength) :
    ∃ m, t.localize wall = .ok m ∧ m.Shows wall (t.regimeAt m.instant).ahead := by
  have hday : dayLength = 24 * hour ∧ 0 < hour := by decide
  obtain ⟨early, hfirst⟩ := ht.candidate_returns hearly hlate (Int.le_refl _) (by omega)
  obtain ⟨late, hsecond⟩ := ht.candidate_returns hearly hlate (by omega) (Int.le_refl _)
  have hfound : early.isSome ∨ late.isSome := by
    -- The offset in force then is also that of a day before, or else that of a day after.
    have hbefore := ht.ahead_cases (u := wall - dayLength) (by omega) (by omega)
    have hafter := ht.ahead_cases (u := wall + dayLength) (by omega) (by omega)
    rcases ht.ahead_cases (u := instant) (by omega) (by omega) with ⟨hlt, hahead⟩ | ⟨hle, hahead⟩
    · exact .inl (candidate_of_shown (by omega) hshown (by omega) hfirst)
    · exact .inr (candidate_of_shown (by omega) hshown (by omega) hsecond)
  obtain ⟨m, hm, hcandidate⟩ := localizeWithin_found _ hfirst hsecond hfound
  refine ⟨m, hm, ?_⟩
  rcases hcandidate with rfl | rfl
  · exact candidate_inForce hfirst
  · exact candidate_inForce hsecond

end
end ZoneTable

-- ---------------------------------------------------------------------------
-- Zones
-- ---------------------------------------------------------------------------

theorem Zone.Regular.ahead_bounds {z : Zone} (hz : z.Regular) (instant : Int) :
    -dayLength < z.aheadAt instant ∧ z.aheadAt instant < dayLength := by
  cases z with
  | fixed offset =>
    have hoffset : -1440 < offset ∧ offset < 1440 := hz
    simp only [Zone.aheadAt, minute, dayLength]
    omega
  | table t => exact ZoneTable.Regular.ahead_bounds hz instant

theorem Zone.localize_shown {z : Zone} (hz : z.Regular) {m : Moment} (hearly : dayLength ≤ m.wall)
    (hlate : m.wall + dayLength < wallLimit) (hshown : z.Shown m.wall) :
    ∃ m', z.localize m = .ok m' ∧ m'.wall = m.wall ∧ z.atInstant m' = .ok m' := by
  have hlocal : ∃ m', z.localize m = .ok m' ∧ m'.Shows m.wall (z.aheadAt m'.instant) := by
    cases z with
    | fixed offset => exact ⟨_, rfl, rfl, rfl⟩
    | table t =>
      obtain ⟨instant, hinstant⟩ := hshown
      obtain ⟨change, before, after, hwall⟩ := ZoneTable.Regular.around hz m.wall
      have hb := Zone.Regular.ahead_bounds hz instant
      exact hwall.localize_shown hearly hlate hinstant (by omega)
  obtain ⟨m', hm', hshows⟩ := hlocal
  have hb := hz.ahead_bounds m'.instant
  have hinstant := hshows.instant
  refine ⟨m', hm', hshows.wall, atInstant_ok.mpr ⟨by omega, ?_, hshows.offset⟩⟩
  rw [hshows.wall]
  omega

end DependencyGate.Time
