import DependencyGate.Proofs.Expression.Resolved
import DependencyGate.Proofs.Matching
import DependencyGate.Proofs.Time.Localize
import DependencyGate.Proofs.Time.ZoneNames

/-!
# Days of a zone

With a time zone the days of an expression are found on the calendar, and both ends of each
are then settled on the zone's clock. The days follow one another without a gap and without
an overlap, unless the clock goes over from one offset to another at midnight
(`resolve_days_of_zone`). Where midnight is shown twice the first hour belongs to no day.
-/

namespace DependencyGate

open Time (Interval Moment Tiles Zone dayLength hour)

-- ---------------------------------------------------------------------------
-- Days
-- ---------------------------------------------------------------------------

namespace Expression

theorem localizeInterval_ok {z : Zone} (h : localizeInterval z i = .ok j) :
    z.localize i.start = .ok j.start ∧ z.localize i.stop = .ok j.stop := by
  obtain ⟨start, hstart, h⟩ := bind_ok.mp h
  obtain ⟨stop, hstop, h⟩ := bind_ok.mp h
  unfold Interval.make at h
  split at h
  next => cases h
  next => cases h
  next =>
    cases h
    exact ⟨hstart, hstop⟩

theorem wallClock_ok {z : Zone} {r : Reference (some z)} (h : wallClock z r = .ok m') :
    m'.offset = none := by
  unfold wallClock at h
  split at h
  next hnone =>
    cases h
    exact hnone
  next =>
    obtain ⟨read, -, h⟩ := bind_ok.mp h
    cases pure_ok.mp h
    rfl

theorem zonedDays_ok {z : Zone} {reference : Reference (some z)} {e : Expression}
    (hdays : e.hourSteps? = none)
    (h : e.intervals (some z) reference = .ok is) :
    ∃ m days first past, wallClock z reference = .ok m ∧ Tiles dayLength none first days past ∧
      (∀ day, first ≤ day ∧ day < past ↔ e.NamesDay m.day day) ∧
      days.Forall₂ (fun i j => localizeInterval z i = .ok j) is := by
  simp only [intervals] at h
  rw [hdays] at h
  obtain ⟨m, hm, h⟩ := bind_ok.mp h
  obtain ⟨ds, hds, h⟩ := bind_ok.mp h
  obtain ⟨first, past, htiles, hperiod⟩ := days_tile hds
  rw [wallClock_ok hm] at htiles
  exact ⟨m, ds, first, past, hm, htiles, hperiod, mapM_ok.mp h⟩

/-- With a zone every interval of a day expression is a day of the zone's calendar. Each starts one
microsecond after the one before it ends, unless the zone's clock goes over to another offset
between them; then they are as far apart, or overlap by as much, as the offsets differ. -/
theorem resolve_days_of_zone {z : Zone} (hregular : z.Regular) {reference : Reference (some z)}
    (hname : ofName? text = some e) (hdays : e.hourSteps? = none)
    (h : resolve (some z) reference (.str text) = .ok is) :
    (∀ i ∈ is, (∃ day, i.Spans dayLength day) ∧ i.start.offset.isSome ∧ i.stop.offset.isSome ∧
      i.start.instant ≤ i.stop.instant) ∧
    is.IsChain fun a b => b.start.wall = a.stop.wall + 1 ∧
      (b.start.instant = a.stop.instant + 1 ↔
        ∀ before after, ¬ z.CutsOver b.start.wall before after) ∧
      ∀ before after, z.CutsOver b.start.wall before after →
        b.start.instant = a.stop.instant + 1 + (before.ahead - after.ahead) := by
  obtain ⟨m, ds, first, past, -, htiles, -, hmatch⟩ :=
    zonedDays_ok hdays ((resolve_ok hname).mp h)
  refine ⟨fun j hj => ?_, isChain_of_forall₂ (fun i i' j j' hij hij' hnext => ?_) hmatch
    htiles.chain⟩
  · obtain ⟨i, hi, hij⟩ := exists_of_forall₂ hmatch hj
    obtain ⟨day, -, -, hfills⟩ := htiles.fills hi
    obtain ⟨hstart, hstop⟩ := localizeInterval_ok hij
    obtain ⟨hstartWall, hstartAware⟩ := Zone.localize_wall hregular hstart
    obtain ⟨hstopWall, hstopAware⟩ := Zone.localize_wall hregular hstop
    exact ⟨⟨day, hstartWall.trans hfills.start, hstopWall.trans hfills.stop⟩, hstartAware,
      hstopAware, j.start_le_stop⟩
  · obtain ⟨number, hi, hi'⟩ := hnext
    have hstop := (localizeInterval_ok hij).2
    have hstart := (localizeInterval_ok hij').1
    have hstopWall := (Zone.localize_wall hregular hstop).1
    have hstartWall := (Zone.localize_wall hregular hstart).1
    have hwalls : i'.start.wall = i.stop.wall + 1 := by
      rw [hi.stop, hi'.start, Int.add_mul]
      omega
    rw [hstartWall, hstopWall]
    exact ⟨hwalls, Zone.localize_next hregular hwalls hstop hstart⟩

-- ---------------------------------------------------------------------------
-- A midnight shown twice
-- ---------------------------------------------------------------------------

/-- The day before the clock of Havana goes back from one o'clock to midnight. -/
def dayBeforeRepeat : Interval :=
  ⟨⟨63866102400000000, some (-4 * hour), by decide⟩,
    ⟨63866188799999999, some (-4 * hour), by decide⟩, by decide⟩

def dayOfRepeat : Interval :=
  ⟨⟨63866188800000000, some (-5 * hour), by decide⟩,
    ⟨63866275199999999, some (-5 * hour), by decide⟩, by decide⟩

def havana : Zone := .table Time.ZoneData.havana

theorem havana_regular : havana.Regular :=
  Time.zones_regular ("America/Havana", havana) (by simp [Time.zones, havana])

def dayAfterRepeat : Moment := ⟨63866318400000000, none, by decide⟩

theorem havana_resolves : resolve (some havana) dayAfterRepeat (.str "last2Days") =
    .ok [dayBeforeRepeat, dayOfRepeat] := by
  refine toOption_ok.mp ?_
  decide +kernel

/-- An hour lies between the end of the one day and the start of the other. -/
theorem days_of_havana_apart : ∃ a b,
    resolve (some havana) dayAfterRepeat (.str "last2Days") = .ok [a, b] ∧
      b.start.instant = a.stop.instant + 1 + hour :=
  ⟨_, _, havana_resolves, by decide⟩

/-- The clock of Havana goes over to another offset with that midnight. -/
theorem resolve_days_of_havana : havana.Regular ∧ ∃ before after,
    havana.CutsOver dayOfRepeat.start.wall before after ∧ before.ahead - after.ahead = hour := by
  obtain ⟨-, hchain⟩ :=
    resolve_days_of_zone (e := .lastDays 2) havana_regular rfl rfl havana_resolves
  obtain ⟨-, hjoined, hapart⟩ := List.isChain_pair.mp hchain
  have hgap : ¬ dayOfRepeat.start.instant = dayBeforeRepeat.stop.instant + 1 := by decide
  rw [hjoined] at hgap
  push Not at hgap
  obtain ⟨before, after, hcut⟩ := hgap
  have hlong : dayOfRepeat.start.instant = dayBeforeRepeat.stop.instant + 1 + hour := by decide
  exact ⟨havana_regular, before, after, hcut, by rw [hapart before after hcut] at hlong; omega⟩

end Expression
end DependencyGate
