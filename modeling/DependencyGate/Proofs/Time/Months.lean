import DependencyGate.Time.Calendar
import Mathlib.Order.Monotone.Basic
import Mathlib.Tactic.IntervalCases

/-!
# Weeks and months by number

Weeks and months are counted through, so that the one before is one less. The days of a
month are those from its opening to that of the next (`monthNumber_eq_iff`).
-/

namespace DependencyGate.Time

/-- Weeks counted from that of the first day, which is a Monday. -/
def weekNumber (day : Int) : Int := day / 7

def monthNumber (day : Int) : Int :=
  12 * (Date.ofDay day).year + ((Date.ofDay day).month - 1)

def monthOpening (month : Int) : Int :=
  daysBeforeYear (month / 12) + daysBeforeMonth (month / 12) ((month % 12).toNat + 1)

-- ---------------------------------------------------------------------------
-- Openings
-- ---------------------------------------------------------------------------

theorem monthOpening_succ (month : Int) : monthOpening (month + 1) =
    daysBeforeYear (month / 12) + daysBeforeMonth (month / 12) ((month % 12).toNat + 1 + 1) := by
  unfold monthOpening
  by_cases h : month % 12 = 11
  · have hyear : (month + 1) / 12 = month / 12 + 1 := by omega
    have hmonth : (month + 1) % 12 = 0 := by omega
    rw [hyear, hmonth, h, daysBeforeYear_succ]
    simp only [Int.toNat_zero, Int.reduceToNat, daysBeforeMonth]
    omega
  · have hyear : (month + 1) / 12 = month / 12 := by omega
    have hmonth : ((month + 1) % 12).toNat = (month % 12).toNat + 1 := by omega
    rw [hyear, hmonth]

theorem daysBeforeMonth_lt_succ (year : Int) {month : Nat} (h₁ : 1 ≤ month) (h₁₂ : month ≤ 12) :
    daysBeforeMonth year month < daysBeforeMonth year (month + 1) := by
  have := leapDays_range year
  interval_cases month <;> simp only [daysBeforeMonth] <;> omega

theorem monthOpening_lt_iff {a b : Int} : monthOpening a < monthOpening b ↔ a < b := by
  refine StrictMono.lt_iff_lt (strictMono_int_of_lt_succ fun month => ?_)
  rw [monthOpening_succ]
  exact Int.add_lt_add_left (daysBeforeMonth_lt_succ _ (by omega) (by omega)) _

theorem monthOpening_le_iff {a b : Int} : monthOpening a ≤ monthOpening b ↔ a ≤ b := by
  rw [← Int.not_lt, monthOpening_lt_iff, Int.not_lt]

-- ---------------------------------------------------------------------------
-- The month of a day
-- ---------------------------------------------------------------------------

theorem dayOfYear_range (day : Int) : 0 ≤ day - daysBeforeYear (yearOf day) ∧
    day - daysBeforeYear (yearOf day) < 365 + leapDays (yearOf day) := by
  have hy := yearOf_bounds day
  have hs := daysBeforeYear_succ (yearOf day)
  omega

theorem monthNumber_parts (day : Int) : monthNumber day / 12 = (Date.ofDay day).year ∧
    (monthNumber day % 12).toNat + 1 = (Date.ofDay day).month := by
  obtain ⟨h₀, h₃₆₅⟩ := dayOfYear_range day
  obtain ⟨h₁, h₁₂, -⟩ := monthOf_bounds (yearOf day) _ h₀ h₃₆₅
  simp only [monthNumber, Date.ofDay]
  omega

theorem monthStart_eq (day : Int) : monthStart day = monthOpening (monthNumber day) := by
  obtain ⟨hyear, hmonth⟩ := monthNumber_parts day
  rw [monthOpening, hyear, hmonth, monthStart]

theorem monthNumber_bounds (day : Int) :
    monthOpening (monthNumber day) ≤ day ∧ day < monthOpening (monthNumber day + 1) := by
  obtain ⟨h₀, h₃₆₅⟩ := dayOfYear_range day
  obtain ⟨-, -, hle, hlt⟩ := monthOf_bounds (yearOf day) _ h₀ h₃₆₅
  obtain ⟨hyear, hmonth⟩ := monthNumber_parts day
  rw [monthOpening_succ, monthOpening, hyear, hmonth]
  simp only [Date.ofDay]
  omega

theorem monthNumber_eq_iff : monthNumber day = month ↔
    monthOpening month ≤ day ∧ day < monthOpening (month + 1) := by
  obtain ⟨hle, hlt⟩ := monthNumber_bounds day
  constructor
  · rintro rfl
    exact ⟨hle, hlt⟩
  · rintro ⟨hle', hlt'⟩
    have h₁ := monthOpening_lt_iff.mp (hle.trans_lt hlt')
    have h₂ := monthOpening_lt_iff.mp (hle'.trans_lt hlt)
    omega

theorem dayOfMonth_eq (day : Int) :
    (Date.ofDay day).day = day - monthOpening (monthNumber day) + 1 := by
  obtain ⟨hyear, hmonth⟩ := monthNumber_parts day
  rw [monthOpening, hyear, hmonth]
  simp only [Date.ofDay]
  omega

theorem daysInMonth_eq (day : Int) : daysInMonth (Date.ofDay day).year (Date.ofDay day).month =
    monthOpening (monthNumber day + 1) - monthOpening (monthNumber day) := by
  obtain ⟨hyear, hmonth⟩ := monthNumber_parts day
  rw [monthOpening_succ, monthOpening, hyear, hmonth, daysInMonth]
  omega

-- ---------------------------------------------------------------------------
-- The ends of a month
-- ---------------------------------------------------------------------------

theorem monthNumber_opening (month : Int) : monthNumber (monthOpening month) = month :=
  monthNumber_eq_iff.mpr ⟨le_rfl, monthOpening_lt_iff.mpr (by omega)⟩

theorem monthNumber_last (month : Int) : monthNumber (monthOpening month - 1) = month - 1 := by
  have := monthOpening_lt_iff.mpr (show month - 1 < month by omega)
  rw [monthNumber_eq_iff, Int.sub_add_cancel]
  omega

theorem first_of_month_iff : monthNumber day = month ∧ (Date.ofDay day).day = 1 ↔
    day = monthOpening month := by
  rw [dayOfMonth_eq]
  constructor
  · rintro ⟨rfl, hfirst⟩
    omega
  · rintro rfl
    rw [monthNumber_opening]
    omega

theorem last_of_month_iff : monthNumber day = month - 1 ∧
    (Date.ofDay day).day = daysInMonth (Date.ofDay day).year (Date.ofDay day).month ↔
    day = monthOpening month - 1 := by
  rw [dayOfMonth_eq, daysInMonth_eq]
  constructor
  · rintro ⟨hmonth, hlast⟩
    rw [hmonth, Int.sub_add_cancel] at hlast
    omega
  · rintro rfl
    rw [monthNumber_last, Int.sub_add_cancel]
    omega

end DependencyGate.Time
