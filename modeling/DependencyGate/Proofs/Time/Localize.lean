import DependencyGate.Proofs.Time.Regimes

/-!
# Readings near a change of offset

Around a change a clock shows some readings twice or skips some. However such a reading is
settled, the readings below one point are taken under the regime before the change and the
others under the regime after it (`localizeWithin_ok`). That point is `cutover`.
-/

namespace DependencyGate.Time

structure Moment.Shows (m : Moment) (wall ahead : Int) : Prop where
  wall : m.wall = wall
  offset : m.offset = some ahead

theorem Moment.Shows.instant {wall ahead : Int} {m : Moment} (h : m.Shows wall ahead) :
    m.instant = wall - ahead := by
  rw [Moment.instant, h.wall, h.offset, Option.getD_some]

theorem ofWall_ok : Moment.ofWall wall offset = .ok m ↔ m.wall = wall ∧ m.offset = offset := by
  unfold Moment.ofWall
  constructor
  · intro h
    split at h
    · cases h
      exact ⟨rfl, rfl⟩
    · cases h
  · rintro ⟨rfl, rfl⟩
    exact dif_pos m.wall_mem

def Regime.ahead (r : Regime) : Int := r.offset * minute

/-- The first reading that is taken under the regime after a change. Readings shown twice are
taken under the one before it where that alone is standard time. -/
def cutover (change : Int) (before after : Regime) : Int :=
  if after.ahead < before.ahead ∧ before.daylight = 0 ∧ after.daylight ≠ 0 then
    change + before.ahead
  else change + after.ahead

theorem cutover_cases (change : Int) (before after : Regime) :
    cutover change before after = change + after.ahead ∨
    after.ahead < before.ahead ∧ cutover change before after = change + before.ahead := by
  unfold cutover
  split
  next h => exact .inr ⟨h.1, rfl⟩
  next => exact .inl rfl

namespace ZoneTable

variable {t : ZoneTable} {wall near : Int}

-- ---------------------------------------------------------------------------
-- Candidates
-- ---------------------------------------------------------------------------

theorem candidate_outside (h : ¬ (0 ≤ near ∧ near < wallLimit)) :
    t.candidate wall near = .ok none := if_neg h

theorem normalize_ok (h : t.normalize wall offset = .ok m) :
    m.Shows (wall - offset + (t.regimeAt (wall - offset)).ahead)
      (t.regimeAt (wall - offset)).ahead := by
  unfold normalize at h
  split at h
  next => cases h
  next utc hutc =>
    obtain ⟨hwall, -⟩ := ofWall_ok.mp hutc
    obtain ⟨hm, hoffset⟩ := ofWall_ok.mp h
    rw [hwall] at hm hoffset
    exact ⟨hm, hoffset⟩

theorem candidate_ok {found : Option Moment} (hnear : 0 ≤ near ∧ near < wallLimit)
    (h : t.candidate wall near = .ok found) :
    (∀ m, found = some m → m.Shows wall (t.regimeAt near).ahead) ∧
    (found.isSome ↔
      (t.regimeAt (wall - (t.regimeAt near).ahead)).ahead = (t.regimeAt near).ahead) := by
  unfold candidate at h
  rw [if_pos hnear] at h
  split at h
  next => cases h
  next m hm =>
    have hshows := normalize_ok hm
    cases h
    have hwall : m.wall = wall ↔
        (t.regimeAt (wall - (t.regimeAt near).ahead)).ahead = (t.regimeAt near).ahead := by
      rw [hshows.wall]
      simp only [Regime.ahead]
      omega
    by_cases hsame : m.wall = wall
    · rw [if_pos hsame]
      refine ⟨?_, ⟨fun _ => hwall.mp hsame, fun _ => rfl⟩⟩
      rintro _ ⟨⟩
      exact ⟨hsame, hshows.offset.trans (congrArg some (hwall.mp hsame))⟩
    · rw [if_neg hsame]
      refine ⟨fun _ h => (nomatch h), ⟨fun h => (nomatch h), fun h => absurd (hwall.mpr h) hsame⟩⟩

theorem candidate_calm {found : Option Moment} (hnear : (t.regimeAt near).ahead = ahead)
    (hhere : (t.regimeAt (wall - ahead)).ahead = ahead) (h : t.candidate wall near = .ok found) :
    (0 ≤ near ∧ near < wallLimit → found.isSome) ∧ ∀ m, found = some m → m.Shows wall ahead := by
  by_cases hinside : 0 ≤ near ∧ near < wallLimit
  · obtain ⟨hshows, hsome⟩ := candidate_ok hinside h
    rw [hnear] at hshows hsome
    exact ⟨fun _ => hsome.mpr hhere, hshows⟩
  · rw [candidate_outside hinside] at h
    cases h
    exact ⟨fun hin => absurd hin hinside, fun _ h => nomatch h⟩

theorem choose_eq (a b : Moment) : t.choose a b = a ∨ t.choose a b = b := by
  unfold choose later
  split
  · exact .inl rfl
  · split
    · exact .inl rfl
    · exact .inr rfl
    · split
      · exact .inr rfl
      · exact .inl rfl

theorem choose_of_lt {a b : Moment} (h : a.instant < b.instant) : t.choose a b =
    if (t.regimeAt a.instant).daylight = 0 ∧ (t.regimeAt b.instant).daylight ≠ 0 then a else b := by
  unfold choose later isStandard
  rw [if_neg (Int.ne_of_lt h), if_pos h]
  by_cases ha : (t.regimeAt a.instant).daylight = 0 <;>
    by_cases hb : (t.regimeAt b.instant).daylight = 0 <;> simp [ha, hb]

-- ---------------------------------------------------------------------------
-- Looking a reading up
-- ---------------------------------------------------------------------------

theorem localizeWithin_step (h : t.localizeWithin (fuel + 1) wall = .ok m) :
    ∃ early late, t.candidate wall (wall - dayLength) = .ok early ∧
      t.candidate wall (wall + dayLength) = .ok late ∧
      match early, late with
      | some a, some b => m = t.choose a b
      | some a, none => m = a
      | none, some b => m = b
      | none, none => ∃ m', skippedStep ≤ wall ∧
          t.localizeWithin fuel (wall - skippedStep) = .ok m' ∧ m'.shift skippedStep = .ok m := by
  unfold localizeWithin at h
  split at h
  next => cases h
  next => cases h
  next a b ha hb =>
    cases h
    exact ⟨some a, some b, ha, hb, rfl⟩
  next a ha hb =>
    cases h
    exact ⟨some _, none, ha, hb, rfl⟩
  next b ha hb =>
    cases h
    exact ⟨none, some _, ha, hb, rfl⟩
  next ha hb =>
    split at h
    next => cases h
    next hroom =>
      split at h
      next => cases h
      next m' hm' => exact ⟨none, none, ha, hb, m', Int.not_lt.mp hroom, hm', h⟩

theorem localizeWithin_calm (hmem : 0 ≤ wall ∧ wall < wallLimit)
    (hbefore : (t.regimeAt (wall - dayLength)).ahead = ahead)
    (hafter : (t.regimeAt (wall + dayLength)).ahead = ahead)
    (hhere : (t.regimeAt (wall - ahead)).ahead = ahead)
    (h : t.localizeWithin (fuel + 1) wall = .ok m) : m.Shows wall ahead := by
  obtain ⟨early, late, hearly, hlate, hm⟩ := localizeWithin_step h
  obtain ⟨hearlySome, hearlyShows⟩ := candidate_calm hbefore hhere hearly
  obtain ⟨hlateSome, hlateShows⟩ := candidate_calm hafter hhere hlate
  match early, late with
  | some a, some b =>
    obtain heq | heq := choose_eq (t := t) a b
    · rw [hm, heq]
      exact hearlyShows a rfl
    · rw [hm, heq]
      exact hlateShows b rfl
  | some a, none => exact hm ▸ hearlyShows a rfl
  | none, some b => exact hm ▸ hlateShows b rfl
  | none, none =>
    -- A day back or a day on the calendar goes on.
    simp only [Option.isSome_none, Bool.false_eq_true, imp_false] at hearlySome hlateSome
    simp only [dayLength, wallLimit] at *
    omega

-- ---------------------------------------------------------------------------
-- Around a change
-- ---------------------------------------------------------------------------

section
variable {center change : Int} {before after : Regime}

theorem Around.bounds (ht : t.Around center change before after) :
    (-dayLength < before.ahead ∧ before.ahead < dayLength) ∧
    (-dayLength < after.ahead ∧ after.ahead < dayLength) ∧
    before.ahead ≤ after.ahead + 25 * hour ∧ after.ahead ≤ before.ahead + 25 * hour := by
  have := ht.beforeOffset
  have := ht.afterOffset
  have := ht.jump
  simp only [Regime.ahead, greatestJump, minute, hour, dayLength] at *
  omega

/-- The regimes before and after a change offer the readings up to it and those from it on. -/
theorem Around.candidates {early late : Option Moment}
    (ht : t.Around center change before after)
    (hlo : center - 33 * hour ≤ wall) (hhi : wall ≤ center)
    (hbefore : wall - dayLength < change) (hafter : change ≤ wall + dayLength)
    (hdiffer : before.ahead ≠ after.ahead)
    (hearly : t.candidate wall (wall - dayLength) = .ok early)
    (hlate : t.candidate wall (wall + dayLength) = .ok late) :
    ((∀ m, early = some m → m.Shows wall before.ahead) ∧
      (early.isSome ↔ wall - before.ahead < change)) ∧
    ((∀ m, late = some m → m.Shows wall after.ahead) ∧
      (late.isSome ↔ change ≤ wall - after.ahead)) := by
  have hbounds := ht.bounds
  have hday : dayLength = 24 * hour ∧ 0 < hour := by decide
  have hinside := ht.inside (by omega) (by omega)
  obtain ⟨hearlyShows, hearlySome⟩ := candidate_ok (by omega) hearly
  obtain ⟨hlateShows, hlateSome⟩ := candidate_ok (by omega) hlate
  rw [ht.early _ (by omega) (by omega) hbefore] at hearlyShows hearlySome
  rw [ht.late _ (by omega) (by omega) hafter] at hlateShows hlateSome
  refine ⟨⟨hearlyShows, ?_⟩, hlateShows, ?_⟩
  · rw [hearlySome]
    by_cases hin : wall - before.ahead < change
    · simp only [ht.early _ (by omega) (by omega) hin, hin]
    · simp only [ht.late _ (by omega) (by omega) (Int.not_lt.mp hin), hin, hdiffer.symm]
  · rw [hlateSome]
    by_cases hin : change ≤ wall - after.ahead
    · simp only [ht.late _ (by omega) (by omega) hin, hin]
    · simp only [ht.early _ (by omega) (by omega) (Int.not_le.mp hin), hin, hdiffer]

theorem Around.localizeWithin_calm (ht : t.Around center change before after)
    (hmem : 0 ≤ wall ∧ wall < wallLimit) (hlo : center - 33 * hour ≤ wall)
    (hhi : wall ≤ center)
    (hcalm : before.ahead = after.ahead ∨ change ≤ wall - dayLength ∨ wall + dayLength < change)
    (h : t.localizeWithin (fuel + 1) wall = .ok m) :
    m.Shows wall (if wall < cutover change before after then before.ahead else after.ahead) := by
  have hbounds := ht.bounds
  have hcases := cutover_cases change before after
  have hday : dayLength = 24 * hour ∧ 0 < hour := by decide
  rcases hcalm with hsame | hpast | hfuture
  · have hall : ∀ u, center - 57 * hour ≤ u → u < center + 27 * hour →
        (t.regimeAt u).ahead = before.ahead := by
      intro u hu hu'
      by_cases hchange : u < change
      · rw [ht.early u hu hu' hchange]
      · rw [ht.late u hu hu' (Int.not_lt.mp hchange), hsame]
    rw [← hsame, ite_self]
    exact ZoneTable.localizeWithin_calm hmem (hall _ (by omega) (by omega))
      (hall _ (by omega) (by omega)) (hall _ (by omega) (by omega)) h
  · rw [if_neg (by omega)]
    exact ZoneTable.localizeWithin_calm hmem (by rw [ht.late _ (by omega) (by omega) hpast])
      (by rw [ht.late _ (by omega) (by omega) (by omega)])
      (by rw [ht.late _ (by omega) (by omega) (by omega)]) h
  · rw [if_pos (by omega)]
    exact ZoneTable.localizeWithin_calm hmem (by rw [ht.early _ (by omega) (by omega) (by omega)])
      (by rw [ht.early _ (by omega) (by omega) hfuture])
      (by rw [ht.early _ (by omega) (by omega) (by omega)]) h

/-- Which of the two moments is chosen that a clock shows one reading at. -/
theorem Around.choose_twice {a b : Moment} (ht : t.Around center change before after)
    (hlo : center - 33 * hour ≤ wall) (hhi : wall ≤ center)
    (ha : a.Shows wall before.ahead) (hb : b.Shows wall after.ahead)
    (hearly : wall - before.ahead < change) (hlate : change ≤ wall - after.ahead) :
    (t.choose a b).Shows wall
      (if wall < cutover change before after then before.ahead else after.ahead) := by
  have hbounds := ht.bounds
  have hday : dayLength = 24 * hour ∧ 0 < hour := by decide
  rw [choose_of_lt (by rw [ha.instant, hb.instant]; omega), ha.instant, hb.instant,
    ht.early _ (by omega) (by omega) hearly, ht.late _ (by omega) (by omega) hlate]
  by_cases hstandard : before.daylight = 0 ∧ after.daylight ≠ 0
  · have hcut : cutover change before after = change + before.ahead :=
      if_pos ⟨by omega, hstandard⟩
    rw [if_pos hstandard, if_pos (by omega)]
    exact ha
  · have hcut : cutover change before after = change + after.ahead :=
      if_neg fun h => hstandard h.2
    rw [if_neg hstandard, if_neg (by omega)]
    exact hb

/-- A reading in the 33 hours up to the center is taken under the regime before the change if it
lies below the cutover, else under the one after it. The steps back from skipped readings must
not leave these hours. -/
theorem localizeWithin_ok (ht : t.Around center change before after)
    (hskip : change + before.ahead ≤ wall → wall < change + after.ahead →
      center - 33 * hour + skippedStep ≤ change + before.ahead)
    (hmem : 0 ≤ wall ∧ wall < wallLimit) (hlo : center - 33 * hour ≤ wall)
    (hhi : wall ≤ center) (h : t.localizeWithin fuel wall = .ok m) :
    m.Shows wall (if wall < cutover change before after then before.ahead else after.ahead) := by
  have hcases := cutover_cases change before after
  induction fuel generalizing wall m with
  | zero => cases h
  | succ fuel ih =>
    by_cases hcalm :
        before.ahead = after.ahead ∨ change ≤ wall - dayLength ∨ wall + dayLength < change
    · exact ht.localizeWithin_calm hmem hlo hhi hcalm h
    obtain ⟨hdiffer, hchange⟩ := not_or.mp hcalm
    obtain ⟨early, late, hearly, hlate, hm⟩ := localizeWithin_step h
    obtain ⟨⟨hearlyShows, hearlySome⟩, hlateShows, hlateSome⟩ :=
      ht.candidates hlo hhi (by omega) (by omega) hdiffer hearly hlate
    match early, late with
    | some a, some b =>
      change m = t.choose a b at hm
      rw [hm]
      exact ht.choose_twice hlo hhi (hearlyShows a rfl) (hlateShows b rfl) (hearlySome.mp rfl)
        (hlateSome.mp rfl)
    | some a, none =>
      have hain := hearlySome.mp rfl
      have hbout := mt hlateSome.mpr Bool.false_ne_true
      rw [if_pos (by omega), hm]
      exact hearlyShows a rfl
    | none, some b =>
      have haout := mt hearlySome.mpr Bool.false_ne_true
      have hbin := hlateSome.mp rfl
      rw [if_neg (by omega), hm]
      exact hlateShows b rfl
    | none, none =>
      -- The reading is skipped; some steps back the clock still showed it.
      have haout := mt hearlySome.mpr Bool.false_ne_true
      have hbout := mt hlateSome.mpr Bool.false_ne_true
      obtain ⟨m', hroom, hm', hshift⟩ := hm
      have hstep : 0 < skippedStep := by decide
      have hstart := hskip (by omega) (by omega)
      have hback := ih (fun _ _ => hstart) (by omega) (by omega) (by omega) hm'
      rw [if_pos (by omega)] at hback
      obtain ⟨hwall, hoffset⟩ := ofWall_ok.mp hshift
      rw [if_pos (by omega)]
      exact ⟨by rw [hwall, hback.wall]; omega, by rw [hoffset, hback.offset]⟩

end

-- ---------------------------------------------------------------------------
-- Neighbouring readings
-- ---------------------------------------------------------------------------

/-- At a change of offset the clock goes over from one regime to another with this reading. -/
def CutsOver (t : ZoneTable) (wall : Int) (before after : Regime) : Prop :=
  ∃ change, t.regimeAt (change - 1) = before ∧ t.regimeAt change = after ∧
    before.ahead ≠ after.ahead ∧ cutover change before after = wall

theorem regimeFrom_mem (current : Regime) (changes : List Change) (utcSecond : Int) :
    regimeFrom current changes utcSecond ∈ current :: changes.map Change.regime := by
  induction changes generalizing current with
  | nil => exact List.mem_cons_self
  | cons c rest ih =>
    rw [regimeFrom]
    split
    · exact List.mem_cons_of_mem _ (ih c.regime)
    · exact List.mem_cons_self

theorem Regular.ahead_bounds (ht : t.Regular) (u : Int) :
    -dayLength < (t.regimeAt u).ahead ∧ (t.regimeAt u).ahead < dayLength := by
  have := ht.offsets _ (regimeFrom_mem t.first t.changes (u / second))
  simp only [Regime.ahead, regimeAt, minute, dayLength]
  omega

theorem Around.cutsOver_iff (ht : t.Regular) (hwall : t.Around wall change r₀ r₁) :
    t.CutsOver wall before after ↔ before = r₀ ∧ after = r₁ ∧ r₀.ahead ≠ r₁.ahead ∧
      cutover change r₀ r₁ = wall := by
  have hday : dayLength = 24 * hour ∧ 0 < hour := by decide
  constructor
  · rintro ⟨u, hbefore, hafter, hdiffer, hcut⟩
    have hb := ht.ahead_bounds (u - 1)
    have ha := ht.ahead_bounds u
    rw [hbefore] at hb
    rw [hafter] at ha
    have hcases := cutover_cases u before after
    have hu : u = change := by
      by_contra hne
      rcases Int.lt_or_gt_of_ne hne with hlt | hgt
      · rw [hwall.early _ (by omega) (by omega) (by omega)] at hbefore hafter
        exact hdiffer (by rw [← hbefore, ← hafter])
      · rw [hwall.late _ (by omega) (by omega) (by omega)] at hbefore hafter
        exact hdiffer (by rw [← hbefore, ← hafter])
    subst hu
    rw [hwall.early _ (by omega) (by omega) (by omega)] at hbefore
    rw [hwall.late _ (by omega) (by omega) (by omega)] at hafter
    subst hbefore hafter
    exact ⟨rfl, rfl, hdiffer, hcut⟩
  · rintro ⟨rfl, rfl, hdiffer, hcut⟩
    have hbounds := hwall.bounds
    have hcases := cutover_cases change before after
    exact ⟨change, hwall.early _ (by omega) (by omega) (by omega),
      hwall.late _ (by omega) (by omega) (by omega), hdiffer, hcut⟩

theorem localize_next (ht : t.Regular) {a b : Moment} (hmem : 0 < wall ∧ wall < wallLimit)
    (ha : t.localize (wall - 1) = .ok a) (hb : t.localize wall = .ok b) :
    (b.instant = a.instant + 1 ↔ ∀ before after, ¬ t.CutsOver wall before after) ∧
    ∀ before after, t.CutsOver wall before after →
      b.instant = a.instant + 1 + (before.ahead - after.ahead) := by
  obtain ⟨change, before, after, hwall⟩ := ht.around wall
  have hbounds := hwall.bounds
  have hlong : skippedStep = 6 * hour ∧ dayLength = 24 * hour ∧ 1 < hour := by decide
  have ha := (localizeWithin_ok hwall (by omega) (by omega) (by omega) (by omega) ha).instant
  have hb := (localizeWithin_ok hwall (by omega) (by omega) (by omega) (by omega) hb).instant
  simp only [hwall.cutsOver_iff ht]
  by_cases hcut : cutover change before after = wall
  · rw [if_pos (by omega)] at ha
    rw [if_neg (by omega)] at hb
    refine ⟨⟨?_, ?_⟩, ?_⟩
    · rintro heq _ _ ⟨-, -, hdiffer, -⟩
      exact hdiffer (by omega)
    · intro hnone
      by_contra hne
      exact hnone before after ⟨rfl, rfl, by omega, hcut⟩
    · rintro _ _ ⟨rfl, rfl, -, -⟩
      omega
  · -- Both readings lie on one side.
    have hnext : b.instant = a.instant + 1 := by
      by_cases hlt : wall < cutover change before after
      · rw [if_pos (by omega)] at ha hb
        omega
      · rw [if_neg (by omega)] at ha hb
        omega
    exact ⟨⟨fun _ _ _ h => hcut h.2.2.2, fun _ => hnext⟩, fun _ _ h => absurd h.2.2.2 hcut⟩

theorem localize_wall (ht : t.Regular) (hmem : 0 ≤ wall ∧ wall < wallLimit)
    (h : t.localize wall = .ok m) : m.wall = wall ∧ m.offset.isSome := by
  obtain ⟨change, before, after, hwall⟩ := ht.around wall
  have hbounds := hwall.bounds
  have hlong : skippedStep = 6 * hour ∧ dayLength = 24 * hour ∧ 1 < hour := by decide
  have hshows := localizeWithin_ok hwall (by omega) hmem (by omega) (by omega) h
  exact ⟨hshows.wall, by rw [hshows.offset, Option.isSome_some]⟩

end ZoneTable

-- ---------------------------------------------------------------------------
-- Zones
-- ---------------------------------------------------------------------------

namespace Zone

variable {z : Zone}

/-- A zone of one offset never changes. -/
def CutsOver (z : Zone) (wall : Int) (before after : Regime) : Prop :=
  match z with
  | .fixed _ => False
  | .table t => t.CutsOver wall before after

theorem localize_wall (hz : z.Regular) (h : z.localize m = .ok m') :
    m'.wall = m.wall ∧ m'.offset.isSome := by
  cases z with
  | fixed offset =>
    cases h
    exact ⟨rfl, rfl⟩
  | table t => exact ZoneTable.localize_wall hz m.wall_mem h

theorem localize_next (hz : z.Regular) {m n a b : Moment} (hnext : n.wall = m.wall + 1)
    (ha : z.localize m = .ok a) (hb : z.localize n = .ok b) :
    (b.instant = a.instant + 1 ↔ ∀ before after, ¬ z.CutsOver n.wall before after) ∧
    ∀ before after, z.CutsOver n.wall before after →
      b.instant = a.instant + 1 + (before.ahead - after.ahead) := by
  cases z with
  | fixed offset =>
    cases ha
    cases hb
    refine ⟨⟨fun _ _ _ => id, fun _ => ?_⟩, fun _ _ => False.elim⟩
    simp only [Moment.instant]
    omega
  | table t =>
    have hm := m.wall_mem
    have hn := n.wall_mem
    have hbefore : t.localize (n.wall - 1) = .ok a := by
      rw [hnext, Int.add_sub_cancel]
      exact ha
    exact ZoneTable.localize_next hz (by omega) hbefore hb

end Zone
end DependencyGate.Time
