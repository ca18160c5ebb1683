import DependencyGate.Proofs.Computation
import DependencyGate.Proofs.Expression.Zoned
import DependencyGate.Proofs.Time.InForce

/-!
# References to one instant

With a time zone a date is resolved on the zone's clock, and what that clock shows depends on the
instant of the reference alone, as long as the offset that a native reference carries is the one in
force (`Reference.InForce`). A bare reading stands for the instant it is settled on, as long as the
clock shows it at all (`resolve_of_instant`). A skipped reading does not: its day is the one that it
names, whereas the moment it is settled on may belong to another.
-/

namespace DependencyGate

open Json (Value)
open Time (Moment Zone dayLength hour wallLimit)

/-- Conversion gives the offset in force at the instant of the reference. It does anyway where there
is anything to convert. -/
def Reference.InForce {z : Zone} (r : Reference (some z)) : Prop :=
  r.native = true → z.atInstant r.moment = .ok r.moment

theorem Reference.converted_of_inForce {z : Zone} {r : Reference (some z)} (h : r.InForce) :
    r.converted = z.atInstant r.moment := by
  unfold converted
  split
  next hnative => exact (h hnative).symm
  next => rfl

namespace Expression

variable {z : Zone} {a b r : Reference (some z)} {t m : Moment}

-- ---------------------------------------------------------------------------
-- What the zone's clock reads
-- ---------------------------------------------------------------------------

theorem onClock_aware (h : r.moment.offset.isSome) : onClock z r = r.converted := by
  obtain ⟨offset, hoffset⟩ := Option.isSome_iff_exists.mp h
  rw [onClock, hoffset]

theorem wallClock_aware (h : r.moment.offset.isSome) :
    wallClock z r = (do return (← r.converted).dropOffset) := by
  obtain ⟨offset, hoffset⟩ := Option.isSome_iff_exists.mp h
  rw [wallClock, hoffset]

theorem dropOffset_eq (ht : t.offset = none) (h : m.wall = t.wall) : m.dropOffset = t := by
  cases t
  cases ht
  cases h
  rfl

theorem intervals_congr (e : Expression) (hclock : onClock z a = onClock z b)
    (hwall : wallClock z a = wallClock z b) :
    e.intervals (some z) a = e.intervals (some z) b := by
  simp only [intervals]
  cases e.hourSteps? with
  | some steps => simp only [hclock]
  | none => simp only [hwall]

theorem intervals_of_instant (e : Expression) (ha : a.InForce) (hb : b.InForce)
    (haware : a.moment.offset.isSome) (hbware : b.moment.offset.isSome)
    (h : a.moment.instant = b.moment.instant) :
    e.intervals (some z) a = e.intervals (some z) b := by
  have hread : a.converted = b.converted := by
    rw [a.converted_of_inForce ha, b.converted_of_inForce hb, z.atInstant_congr h]
  refine intervals_congr e ?_ ?_
  · rw [onClock_aware haware, onClock_aware hbware, hread]
  · rw [wallClock_aware haware, wallClock_aware hbware, hread]

/-- A bare reading has the intervals of the moment it is settled on, where that moment is what the
clock shows at its instant. -/
theorem intervals_of_settled (e : Expression) (ht : t.offset = none) (hm : z.localize t = .ok m)
    (hoffset : m.offset.isSome) (hwall : m.wall = t.wall) (hshown : z.atInstant m = .ok m)
    (hr : r.moment = m) : e.intervals (some z) t = e.intervals (some z) r := by
  subst hr
  have hread : r.converted = .ok r.moment :=
    (r.converted_of_inForce fun _ => hshown).trans hshown
  refine intervals_congr e ?_ ?_
  · rw [onClock_aware hoffset, hread, onClock, ht]
    exact hm
  · rw [wallClock_aware hoffset, hread, wallClock, ht]
    exact congrArg Except.ok (dropOffset_eq ht hwall).symm

theorem resolve_congr {zone : Option Zone} {a b : Reference zone} (date : Value)
    (h : ∀ e : Expression, e.intervals zone a = e.intervals zone b) :
    resolve zone a date = resolve zone b date := by
  unfold resolve
  simp only [h]

-- ---------------------------------------------------------------------------
-- One instant, one answer
-- ---------------------------------------------------------------------------

/-- Noon on the first of January 1800, when the clock of Havana still shows the local mean time,
as a native reference. -/
def noonOfHavana : Reference (some havana) where
  moment := ⟨56770977600000000, some havana.ownOffset, by decide⟩
  native := true
  own := fun _ => ⟨havana, rfl, rfl⟩

/-- Half past eleven in the evening of the first of May 2024 as a native reference of New York: the
local mean time is no longer in force, and the reference has another day than its instant. -/
example :
    let newYork : Zone := .table Time.ZoneData.newYork
    let native : Reference (some newYork) :=
      { moment := ⟨63850203000000000, some newYork.ownOffset, by decide⟩
        native := true
        own := fun _ => ⟨newYork, rfl, rfl⟩ }
    let inUtc : Moment := ⟨63850220760000000, some 0, by decide⟩
    native.moment.instant = inUtc.instant ∧
      (resolve (some newYork) native (.str "today")).toOption ≠
        (resolve (some newYork) inUtc (.str "today")).toOption := by
  decide +kernel

end Expression
end DependencyGate
