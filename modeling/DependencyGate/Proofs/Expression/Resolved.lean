import DependencyGate.Proofs.Expression.Returning

/-!
# Resolution on the clock of the reference

Without a time zone an expression is resolved on the clock that the reference moment is read
from, as far as the calendar has room for it (`resolve_outcome`). The intervals are then full hours
or full days of that clock, in order and without a gap, and hold the period of the expression and
nothing else (`resolve_tiles_period`).
-/

namespace DependencyGate

open Json (Value)
open Time (InNone InOne Interval Moment Tiles dayLength hour lastDay wallLimit)

namespace Expression

def unit (e : Expression) : Int := if e.hourSteps?.isSome then hour else dayLength

theorem unit_pos (e : Expression) : 0 < e.unit := by
  unfold unit
  split <;> decide

instance (e : Expression) (now h : Int) : Decidable (e.NamesHour now h) := by
  cases e <;> unfold NamesHour <;> infer_instance

instance (e : Expression) (today day : Int) : Decidable (e.NamesDay today day) := by
  cases e <;> unfold NamesDay <;> infer_instance

instance (e : Expression) (now reading : Int) : Decidable (e.Denotes now reading) :=
  inferInstanceAs (Decidable (_ ∨ _))

-- ---------------------------------------------------------------------------
-- Resolution
-- ---------------------------------------------------------------------------

section
variable {zone : Option Time.Zone} {reference : Reference zone}

theorem resolve_ok (hname : ofName? name = some e) :
    resolve zone reference (.str name) = .ok is ↔ e.intervals zone reference = .ok is := by
  simp only [resolve, hname]
  exact mapError_ok

theorem resolve_fails (hname : ofName? name = some e)
    (h : e.intervals zone reference = .error f) :
    resolve zone reference (.str name) = .error (.time f) := by
  simp only [resolve, hname]
  exact mapError_error.mpr ⟨f, h, rfl⟩

theorem resolve_unknown (hname : ofName? name = none) :
    resolve zone reference (.str name) = .error (.unknownExpression (.str name)) := by
  simp only [resolve, hname]
  rfl

end

theorem supportsDate_str (text : String) :
    supportsDate (.str text) = .ok (isSupported text) := rfl

theorem intervals_tile {e : Expression} {m : Moment} (h : e.intervals none m = .ok is) :
    ∃ first past, Tiles e.unit m.offset first is past ∧
      ∀ reading, first ≤ reading / e.unit ∧ reading / e.unit < past ↔ e.Denotes m.wall reading := by
  simp only [intervals] at h
  cases hsteps : e.hourSteps? with
  | some steps =>
    have hhours : e.hourSteps?.isSome := by rw [hsteps, Option.isSome_some]
    rw [hsteps] at h
    obtain ⟨first, past, htiles, hperiod⟩ := hours_tile hsteps h
    rw [unit, if_pos hhours]
    refine ⟨first, past, htiles, fun reading => ?_⟩
    rw [hperiod, Denotes, or_iff_left (not_namesDay hhours _ _)]
  | none =>
    rw [hsteps] at h
    obtain ⟨first, past, htiles, hperiod⟩ := days_tile h
    rw [unit, hsteps]
    refine ⟨first, past, htiles, fun reading => ?_⟩
    rw [Option.isSome_none, if_neg Bool.false_ne_true, hperiod, Denotes,
      or_iff_right (not_namesHour hsteps _ _)]
    exact Iff.rfl

theorem resolve_returns {t : Moment} (hname : ofName? name = some e)
    (hearly : 31 * dayLength ≤ t.wall) (hlate : t.wall + dayLength < wallLimit) :
    ∃ is, resolve none t (.str name) = .ok is := by
  have hday : t.day ≠ lastDay := by
    simp only [Moment.day, lastDay, dayLength, wallLimit] at *
    omega
  obtain ⟨is, his⟩ := (intervals_needs e t).returns
    ⟨onCalendar_inside (reach_le hname) hearly, fun hlast => hday hlast.2⟩
  exact ⟨is, (resolve_ok hname).mpr his⟩

theorem resolve_named (hname : ofName? name = some e) (t : Moment) :
    (e.HasRoom t ∧ ∃ is, resolve none t (.str name) = .ok is) ∨
      (¬ e.HasRoom t ∧ resolve none t (.str name) = .error (.time .outOfRange)) := by
  have hneeds := intervals_needs e t
  by_cases hroom : e.HasRoom t
  · obtain ⟨is, his⟩ := hneeds.returns hroom
    exact .inl ⟨hroom, is, (resolve_ok hname).mpr his⟩
  · exact .inr ⟨hroom, resolve_fails hname (hneeds.leaves hroom)⟩

/-- Without a zone a text is refused as unknown when it is not supported, and no other is. A
supported one has its intervals when there is room for them, and otherwise overflows. -/
theorem resolve_outcome (text : String) (t : Moment) :
    (supportsDate (.str text) = .ok false ↔
      ∃ f, resolve none t (.str text) = .error f ∧ f.cls = .value ∧
        f.message = "Unknown date expression: " ++ text) ∧
    (supportsDate (.str text) = .ok true ↔
      ∃ e, ofName? text = some e ∧
        ((∃ is, resolve none t (.str text) = .ok is) ↔ e.HasRoom t) ∧
        ((∃ f, resolve none t (.str text) = .error f ∧ f.cls = .overflow ∧
          f.message = "date value out of range") ↔ ¬ e.HasRoom t)) := by
  rw [supportsDate_str, isSupported]
  cases hname : ofName? text with
  | none =>
    have hunknown : resolve none t (.str text) = _ := resolve_unknown hname
    refine ⟨iff_of_true rfl ⟨_, hunknown, rfl, rfl⟩, iff_of_false (by simp) ?_⟩
    rintro ⟨e, he, -⟩
    cases he
  | some e =>
    rcases resolve_named hname t with ⟨hroom, is, his⟩ | ⟨hroom, hfault⟩
    · rw [his]
      refine ⟨iff_of_false (by simp) (by simp), iff_of_true rfl ⟨e, rfl, ?_, ?_⟩⟩
      · exact iff_of_true ⟨is, rfl⟩ hroom
      · exact iff_of_false (by simp) (not_not.mpr hroom)
    · rw [hfault]
      refine ⟨iff_of_false (by simp) ?_, iff_of_true rfl ⟨e, rfl, ?_, ?_⟩⟩
      · rintro ⟨f, hf, hvalue, -⟩
        cases hf
        cases hvalue
      · exact iff_of_false (by simp) hroom
      · exact iff_of_true ⟨_, rfl, rfl, rfl⟩ hroom

/-- At noon on the last day of the calendar the week up to that day is on the calendar, and
resolving it overflows. -/
theorem thisWeek_fails_on_last_day :
    ofName? "thisWeek" = some .thisWeek ∧ OnCalendar .thisWeek 315537854400000000 ∧
    resolve none (⟨315537854400000000, none, by decide⟩ : Moment) (.str "thisWeek") =
      .error (.time .outOfRange) :=
  ⟨rfl, onCalendar_of_walks (.inl rfl) ⟨315537854400000000, none, by decide⟩, by decide +kernel⟩

/-- Without a zone the intervals of an expression are full hours or days of the reference's
clock, in order and without a gap, and of the moments of its kind they hold each one of the
period once and no other. -/
theorem resolve_tiles_period {t : Moment} {is : List Interval} (hname : ofName? name = some e)
    (h : resolve none t (.str name) = .ok is) :
    (∀ i ∈ is, ∃ number, i.Fills e.unit t.offset number) ∧
    (is.Pairwise fun a b => a.stop.instant < b.start.instant) ∧
    (is.IsChain fun a b => b.start.instant = a.stop.instant + 1) ∧
    ∀ m, Moment.SameKind m t →
      (e.Denotes t.wall (m.readingOn t.offset) → InOne is m) ∧
      (¬ e.Denotes t.wall (m.readingOn t.offset) → InNone is m) := by
  obtain ⟨first, past, htiles, hperiod⟩ := intervals_tile ((resolve_ok hname).mp h)
  refine ⟨fun i hi => ?_, htiles.inOrder e.unit_pos, htiles.noGap, fun m hkind => ⟨fun hm => ?_,
    fun hm => ?_⟩⟩
  · obtain ⟨number, -, -, hfills⟩ := htiles.fills hi
    exact ⟨number, hfills⟩
  · exact htiles.inOne e.unit_pos hkind.symm ((hperiod _).mpr hm)
  · exact htiles.inNone e.unit_pos hkind.symm fun hin => hm ((hperiod _).mp hin)

/-- At one o'clock on 1 March 2024, two hours ahead of UTC, the last month ends with the 29th of
February on that clock, which a clock in UTC shows as 22:00. -/
theorem resolve_tiles_leap_february :
    ofName? "lastMonth" = some .lastMonth ∧
    ∃ is, resolve none (⟨63844851600000000, some (2 * hour), by decide⟩ : Moment)
      (.str "lastMonth") = .ok is ∧
      InOne is ⟨63844840799999999, some 0, by decide⟩ ∧
      InNone is ⟨63844840800000000, some 0, by decide⟩ := by
  have hname : ofName? "lastMonth" = some .lastMonth := rfl
  obtain ⟨is, his⟩ := resolve_returns
    (t := ⟨63844851600000000, some (2 * hour), by decide⟩) hname (by decide) (by decide)
  obtain ⟨-, -, -, hperiod⟩ := resolve_tiles_period hname his
  have hlast := (hperiod ⟨63844840799999999, some 0, by decide⟩ rfl).1 (by decide +kernel)
  have hnext := (hperiod ⟨63844840800000000, some 0, by decide⟩ rfl).2 (by decide +kernel)
  exact ⟨hname, is, his, hlast, hnext⟩

end Expression
end DependencyGate
