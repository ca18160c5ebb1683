/-!
# Days of the civil calendar

Days are counted from the first of January of year 1, which is day 0 and a Monday.
`Date.ofDay` and `Date.day` go between a day and its year, month and day of month;
`yearOf_bounds` and `monthOf_bounds` say that the year and month found are the ones the
day falls into.
-/

namespace DependencyGate.Time

def daysBeforeYear (year : Int) : Int :=
  365 * (year - 1) + (year - 1) / 4 - (year - 1) / 100 + (year - 1) / 400

def leapDays (year : Int) : Int :=
  if year % 4 = 0 ∧ (year % 100 ≠ 0 ∨ year % 400 = 0) then 1 else 0

/-- The year a day falls into: an estimate from the mean length of a year, off by one at most. -/
def yearOf (day : Int) : Int :=
  let guess := 400 * day / 146097 + 1
  if day < daysBeforeYear guess then guess - 1
  else if daysBeforeYear (guess + 1) ≤ day then guess + 1
  else guess

/-- The estimate misses by one year at most. -/
theorem guess_near (day : Int) :
    daysBeforeYear (400 * day / 146097) ≤ day ∧
      day < daysBeforeYear (400 * day / 146097 + 1 + 1 + 1) := by
  simp only [daysBeforeYear]; omega

theorem yearOf_bounds (day : Int) :
    daysBeforeYear (yearOf day) ≤ day ∧ day < daysBeforeYear (yearOf day + 1) := by
  have h := guess_near day
  unfold yearOf
  generalize 400 * day / 146097 = g at h ⊢
  by_cases h₁ : day < daysBeforeYear (g + 1)
  · simp only [h₁, if_true, Int.add_sub_cancel]; exact ⟨h.1, trivial⟩
  · by_cases h₂ : daysBeforeYear (g + 1 + 1) ≤ day
    · simp only [h₁, h₂, if_true, if_false]; exact ⟨trivial, h.2⟩
    · simp only [h₁, h₂, if_false]; omega

theorem daysBeforeYear_succ (year : Int) :
    daysBeforeYear (year + 1) = daysBeforeYear year + 365 + leapDays year := by
  simp only [daysBeforeYear, leapDays]; split <;> omega

/-- Days of a year before the first of a month; a thirteenth month stands for the year's end. -/
def daysBeforeMonth (year : Int) : Nat → Int
  | 0 => 0
  | 1 => 0
  | 2 => 31
  | 3 => 59 + leapDays year
  | 4 => 90 + leapDays year
  | 5 => 120 + leapDays year
  | 6 => 151 + leapDays year
  | 7 => 181 + leapDays year
  | 8 => 212 + leapDays year
  | 9 => 243 + leapDays year
  | 10 => 273 + leapDays year
  | 11 => 304 + leapDays year
  | 12 => 334 + leapDays year
  | _ => 365 + leapDays year

/-- The month from March on, by the days of a common year before it. -/
def monthFromMarch (d : Int) : Nat :=
  if d < 90 then 3 else if d < 120 then 4 else if d < 151 then 5 else if d < 181 then 6
  else if d < 212 then 7 else if d < 243 then 8 else if d < 273 then 9 else if d < 304 then 10
  else if d < 334 then 11 else 12

def monthOf (year dayOfYear : Int) : Nat :=
  if dayOfYear < 31 then 1
  else if dayOfYear < 59 + leapDays year then 2
  else monthFromMarch (dayOfYear - leapDays year)

theorem leapDays_range (year : Int) : 0 ≤ leapDays year ∧ leapDays year ≤ 1 := by
  unfold leapDays; split <;> omega

theorem monthFromMarch_bounds (year d : Int) (h₀ : 59 ≤ d) (h₁ : d < 365) :
    1 ≤ monthFromMarch d ∧ monthFromMarch d ≤ 12 ∧
      daysBeforeMonth year (monthFromMarch d) ≤ d + leapDays year ∧
      d + leapDays year < daysBeforeMonth year (monthFromMarch d + 1) := by
  unfold monthFromMarch
  by_cases h90 : d < 90
  · rw [if_pos h90]; simp only [daysBeforeMonth]; omega
  rw [if_neg h90]
  by_cases h120 : d < 120
  · rw [if_pos h120]; simp only [daysBeforeMonth]; omega
  rw [if_neg h120]
  by_cases h151 : d < 151
  · rw [if_pos h151]; simp only [daysBeforeMonth]; omega
  rw [if_neg h151]
  by_cases h181 : d < 181
  · rw [if_pos h181]; simp only [daysBeforeMonth]; omega
  rw [if_neg h181]
  by_cases h212 : d < 212
  · rw [if_pos h212]; simp only [daysBeforeMonth]; omega
  rw [if_neg h212]
  by_cases h243 : d < 243
  · rw [if_pos h243]; simp only [daysBeforeMonth]; omega
  rw [if_neg h243]
  by_cases h273 : d < 273
  · rw [if_pos h273]; simp only [daysBeforeMonth]; omega
  rw [if_neg h273]
  by_cases h304 : d < 304
  · rw [if_pos h304]; simp only [daysBeforeMonth]; omega
  rw [if_neg h304]
  by_cases h334 : d < 334
  · rw [if_pos h334]; simp only [daysBeforeMonth]; omega
  rw [if_neg h334]
  simp only [daysBeforeMonth]; omega

theorem monthOf_bounds (year dayOfYear : Int) (h₀ : 0 ≤ dayOfYear)
    (h₁ : dayOfYear < 365 + leapDays year) :
    1 ≤ monthOf year dayOfYear ∧ monthOf year dayOfYear ≤ 12 ∧
      daysBeforeMonth year (monthOf year dayOfYear) ≤ dayOfYear ∧
      dayOfYear < daysBeforeMonth year (monthOf year dayOfYear + 1) := by
  have := leapDays_range year
  unfold monthOf
  split
  · simp only [daysBeforeMonth]; omega
  · split
    · simp only [daysBeforeMonth]; omega
    · have := monthFromMarch_bounds year (dayOfYear - leapDays year) (by omega) (by omega)
      omega

structure Date where
  year : Int
  month : Nat
  day : Int
deriving DecidableEq, Repr, Inhabited

namespace Date

def ofDay (day : Int) : Date :=
  let year := yearOf day
  let dayOfYear := day - daysBeforeYear year
  let month := monthOf year dayOfYear
  ⟨year, month, dayOfYear - daysBeforeMonth year month + 1⟩

def toDay (date : Date) : Int :=
  daysBeforeYear date.year + daysBeforeMonth date.year date.month + date.day - 1

end Date

def daysInMonth (year : Int) (month : Nat) : Int :=
  daysBeforeMonth year (month + 1) - daysBeforeMonth year month

def weekday (day : Int) : Int := day % 7

def monthStart (day : Int) : Int :=
  let date := Date.ofDay day
  daysBeforeYear date.year + daysBeforeMonth date.year date.month

theorem daysBeforeMonth_nonneg (year : Int) (month : Nat) : 0 ≤ daysBeforeMonth year month := by
  have := leapDays_range year
  unfold daysBeforeMonth
  split <;> omega

theorem yearOf_pos (day : Int) (h : 0 ≤ day) : 1 ≤ yearOf day := by
  have hy := (yearOf_bounds day).2
  generalize yearOf day = y at hy
  simp only [daysBeforeYear] at hy
  omega

theorem daysBeforeYear_nonneg (year : Int) (h : 1 ≤ year) : 0 ≤ daysBeforeYear year := by
  simp only [daysBeforeYear]; omega

theorem monthStart_range (day : Int) (h : 0 ≤ day) : 0 ≤ monthStart day ∧ monthStart day ≤ day := by
  have hy := yearOf_bounds day
  have hs := daysBeforeYear_succ (yearOf day)
  have hp := daysBeforeYear_nonneg (yearOf day) (yearOf_pos day h)
  have hm := monthOf_bounds (yearOf day) (day - daysBeforeYear (yearOf day)) (by omega) (by omega)
  have hb := daysBeforeMonth_nonneg (yearOf day)
    (monthOf (yearOf day) (day - daysBeforeYear (yearOf day)))
  simp only [monthStart, Date.ofDay]
  omega

end DependencyGate.Time
