import DependencyGate.Proofs.Expression.Resolved
import DependencyGate.Proofs.Matching
import DependencyGate.Proofs.Time.InForce
import DependencyGate.Time.ZoneData.Americas

/-!
# Hours of a zone

With a time zone the hours of an expression step back in absolute time. Each of them is the hour
that the zone's clock shows at its instant, under the offset in force then, so that an hour shown
twice is listed twice and a skipped one is not listed. Their starts always rise, and they meet
where the offsets of two neighbours differ by full hours (`resolve_hours_of_zone`).
-/

namespace DependencyGate

open Time (Interval Moment Zone hour)

-- ---------------------------------------------------------------------------
-- Hours around instants
-- ---------------------------------------------------------------------------

namespace Time.Zone

/-- The instant at which a reference is read: its own if it has an offset, else one that the
zone's clock is settled on. -/
def IsInstantOf (z : Zone) (reference : Moment) (instant : Int) : Prop :=
  match reference.offset with
  | some _ => reference.instant = instant
  | none => ∃ m, z.localize reference = .ok m ∧ m.instant = instant

/-- A full hour of the zone's clock around an instant, under the offset in force then. -/
structure HourAt (z : Zone) (instant : Int) (i : Interval) : Prop where
  begins : i.start.instant ≤ instant
  ends : instant ≤ i.stop.instant
  startOffset : i.start.offset = some (z.aheadAt instant)
  stopOffset : i.stop.offset = some (z.aheadAt instant)
  full : i.start.wall % hour = 0
  length : i.stop.instant = i.start.instant + (hour - 1)

variable {z : Zone} {instant : Int} {m : Moment} {i j : Interval}

theorem ShowsAt.hourOf (h : z.ShowsAt instant m) : z.HourAt instant (Interval.hourOf m) := by
  have hfills := Interval.hourOf_fills m
  rw [h.offset, h.wall] at hfills
  have hstart := hfills.start
  have hstop := hfills.stop
  refine ⟨?_, ?_, hfills.startOffset, hfills.stopOffset, ?_, ?_⟩ <;>
    simp only [Moment.instant, hfills.startOffset, hfills.stopOffset, Option.getD_some,
      hour] at * <;>
    omega

theorem HourAt.next (hi : z.HourAt instant i) (hj : z.HourAt (instant + hour) j) :
    i.start.instant < j.start.instant ∧
      (z.aheadAt instant % hour = z.aheadAt (instant + hour) % hour →
        j.start.instant = i.stop.instant + 1) := by
  obtain ⟨hibegins, hiends, hioffset, -, hifull, hilength⟩ := hi
  obtain ⟨hjbegins, hjends, hjoffset, -, hjfull, hjlength⟩ := hj
  simp only [Moment.instant, hioffset, hjoffset, Option.getD_some, hour] at *
  omega

end Time.Zone

-- ---------------------------------------------------------------------------
-- Steps back
-- ---------------------------------------------------------------------------

namespace Expression

theorem hourSteps_chain {e : Expression} (h : e.hourSteps? = some steps) :
    steps.IsChain fun o o' => o = o' + 1 := by
  have hdown : ∀ count : Nat,
      ((List.range count).reverse.map (· + 1)).IsChain fun o o' => o = o' + 1 := by
    intro count
    induction count with
    | zero => exact .nil
    | succ count ih =>
      rw [List.range_succ, List.reverse_append, List.reverse_singleton, List.singleton_append,
        List.map_cons]
      cases count with
      | zero => exact .singleton _
      | succ count =>
        rw [List.range_succ, List.reverse_append, List.reverse_singleton, List.singleton_append,
          List.map_cons] at ih ⊢
        exact .cons_cons rfl ih
  cases e with
  | currentHour =>
    cases h
    exact .singleton _
  | lastHours count =>
    cases h
    exact hdown count
  | _ => cases h

variable {z : Zone} {m : Moment}

theorem Reference.converted_ok {r : Reference (some z)} (h : r.converted = .ok m) :
    m.instant = r.moment.instant ∧ z.Carries m.offset := by
  unfold Reference.converted at h
  split at h
  next hnative =>
    cases h
    obtain ⟨_, ⟨⟩, hown⟩ := r.own hnative
    exact ⟨rfl, hown ▸ z.carries_own⟩
  next =>
    have hshows := (Zone.atInstant_ok.mp h).2
    exact ⟨hshows.instant, hshows.carries⟩

theorem onClock_ok {r : Reference (some z)} (h : onClock z r = .ok m) :
    z.IsInstantOf r.moment m.instant ∧ z.Carries m.offset := by
  unfold onClock at h
  unfold Zone.IsInstantOf
  cases hoffset : r.moment.offset with
  | none =>
    rw [hoffset] at h
    exact ⟨⟨m, h, rfl⟩, Zone.localize_carries h⟩
  | some offset =>
    rw [hoffset] at h
    obtain ⟨hinstant, hcarries⟩ := Reference.converted_ok h
    exact ⟨hinstant.symm, hcarries⟩

theorem zonedHourBack_ok (hm : z.Carries m.offset) (h : zonedHourBack z m steps = .ok i) :
    z.HourAt (m.instant - steps * hour) i := by
  obtain ⟨back, hback, h⟩ := bind_ok.mp h
  obtain ⟨read, hread, h⟩ := bind_ok.mp h
  cases pure_ok.mp h
  obtain ⟨hwall, hoffset⟩ := shift_ok hback
  have hinstant : back.instant = m.instant - steps * hour := by
    rw [Moment.instant, hwall, hoffset, Moment.instant]
    omega
  rw [← hinstant]
  exact (Zone.normalize_ok (hoffset ▸ hm) hread).hourOf

/-- With a zone every interval of an hour expression is the full hour of the zone's clock around
the instant that many hours before the reference, under the offset in force at that instant. Their
starts rise, and where all these offsets differ by full hours, each hour starts one microsecond
after the one before it ends. -/
theorem resolve_hours_of_zone {z : Zone} {reference : Reference (some z)}
    (hname : ofName? text = some e)
    (hsteps : e.hourSteps? = some steps) (h : resolve (some z) reference (.str text) = .ok is) :
    ∃ instant, z.IsInstantOf reference.moment instant ∧
      List.Forall₂ (fun (o : Nat) i => z.HourAt (instant - o * hour) i) steps is ∧
      (is.Pairwise fun a b => a.start.instant < b.start.instant) ∧
      ((∃ rest, ∀ o ∈ steps, z.aheadAt (instant - o * hour) % hour = rest) →
        is.IsChain fun a b => b.start.instant = a.stop.instant + 1) := by
  have h := (resolve_ok hname).mp h
  simp only [intervals] at h
  rw [hsteps] at h
  obtain ⟨m, hm, h⟩ := bind_ok.mp h
  obtain ⟨hinstant, hcarries⟩ := onClock_ok hm
  have hhours : List.Forall₂ (fun (o : Nat) i => z.HourAt (m.instant - o * hour) i) steps is :=
    (mapM_ok.mp h).imp fun _ _ => zonedHourBack_ok hcarries
  have hback : ∀ o : Nat, m.instant - (o + 1 : Nat) * hour + hour = m.instant - o * hour := by
    intro o
    rw [Int.natCast_add, Int.add_mul]
    omega
  have hdown := hourSteps_chain hsteps
  refine ⟨m.instant, hinstant, hhours, ?_, ?_⟩
  · rw [← List.isChain_iff_pairwise]
    refine isChain_of_forall₂ ?_ hhours hdown
    rintro _ o i j hi hj rfl
    exact (hi.next (by rw [hback]; exact hj)).1
  · rintro ⟨rest, hrest⟩
    have hboth := (List.forall₂_and_left _ _).mpr ⟨hrest, hhours⟩
    refine isChain_of_forall₂ ?_ hboth hdown
    rintro _ o i j ⟨hileft, hi⟩ ⟨hjleft, hj⟩ rfl
    refine (hi.next (by rw [hback]; exact hj)).2 ?_
    rw [hback, hileft, hjleft]

/-- The hour before the clock of New York goes back from two o'clock to one. -/
def hourBeforeRepeat : Interval :=
  Interval.hourOf ⟨63866190600000000, some (-4 * hour), by decide⟩

def repeatedHour (behind : Int) : Interval :=
  Interval.hourOf ⟨63866192400000000, some (-behind * hour), by decide⟩

/-- At half past two on that day the last three hours hold the repeated hour twice, and meet. -/
theorem resolve_hours_of_new_york :
    let z : Zone := .table Time.ZoneData.newYork
    let reference : Moment := ⟨63866197800000000, none, by decide⟩
    resolve (some z) reference (.str "last3Hours") =
      .ok [hourBeforeRepeat, repeatedHour 4, repeatedHour 5] ∧
    [hourBeforeRepeat, repeatedHour 4, repeatedHour 5].IsChain fun a b =>
      b.start.instant = a.stop.instant + 1 := by
  intro z reference
  have hresolved : resolve (some z) reference (.str "last3Hours") =
      .ok [hourBeforeRepeat, repeatedHour 4, repeatedHour 5] := by
    refine toOption_ok.mp ?_
    decide +kernel
  obtain ⟨instant, -, hback, -, hmeet⟩ :=
    resolve_hours_of_zone (e := .lastHours 3) rfl rfl hresolved
  obtain ⟨hthree, hback⟩ := List.forall₂_cons.mp hback
  obtain ⟨htwo, hback⟩ := List.forall₂_cons.mp hback
  obtain ⟨hone, -⟩ := List.forall₂_cons.mp hback
  have hfull : ∀ o ∈ [3, 2, 1], z.aheadAt (instant - (o : Nat) * hour) % hour = 0 := by
    simp only [List.forall_mem_cons]
    refine ⟨?_, ?_, ?_, List.forall_mem_nil _⟩
    · rw [← Option.some.inj hthree.startOffset]
      decide
    · rw [← Option.some.inj htwo.startOffset]
      decide
    · rw [← Option.some.inj hone.startOffset]
      decide
  exact ⟨hresolved, hmeet ⟨0, hfull⟩⟩

end Expression
end DependencyGate
