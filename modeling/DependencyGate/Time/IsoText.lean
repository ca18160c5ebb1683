import DependencyGate.Time.Interval
import DependencyGate.Text.Quoted

/-!
# ISO 8601 texts of moments

`Moment.text` writes year, month, day and time with the offset when there is one.
`Moment.parse` reads that and the other common forms: basic and extended dates,
week dates, times cut short, fractions of any length, `Z`. Any one character may
stand between date and time.
-/

namespace DependencyGate.Time

-- ---------------------------------------------------------------------------
-- Writing
-- ---------------------------------------------------------------------------

def padded (width : Nat) (n : Int) : String :=
  let digits := Nat.toDigits 10 n.toNat
  String.ofList (List.replicate (width - digits.length) '0' ++ digits)

def fractionText (micros : Int) : String :=
  if micros = 0 then "" else "." ++ padded 6 micros

def offsetText (offset : Int) : String :=
  let n : Int := offset.natAbs
  let seconds := n / second % 60
  let micros := n % second
  (if offset < 0 then "-" else "+") ++ padded 2 (n / hour) ++ ":" ++ padded 2 (n / minute % 60) ++
    (if seconds = 0 ∧ micros = 0 then "" else ":" ++ padded 2 seconds ++ fractionText micros)

namespace Moment

def text (m : Moment) : String :=
  let date := Date.ofDay m.day
  let t := m.timeOfDay
  padded 4 date.year ++ "-" ++ padded 2 date.month ++ "-" ++ padded 2 date.day ++ "T" ++
    padded 2 (t / hour) ++ ":" ++ padded 2 (t / minute % 60) ++ ":" ++
    padded 2 (t / second % 60) ++ fractionText (t % second) ++
    (match m.offset with
      | none => ""
      | some offset => offsetText offset)

end Moment

-- ---------------------------------------------------------------------------
-- Reading
-- ---------------------------------------------------------------------------

inductive ParseFault
  | malformed (text : String)
  | yearRange (year : Nat)
  | monthRange
  | dayRange
  | hourRange
  | minuteRange
  | secondRange
  /-- The offset, in microseconds, is a day or more. -/
  | offsetRange (offset : Int)
deriving DecidableEq, Repr

/-- A distance in days, seconds and microseconds, only the last two of one sign. -/
def distanceText (micros : Int) : String :=
  let days := micros / dayLength
  let seconds := micros % dayLength / second
  let rest := micros % second
  let parts :=
    (if days = 0 then [] else [s!"days={days}"]) ++
    (if seconds = 0 then [] else [s!"seconds={seconds}"]) ++
    (if rest = 0 then [] else [s!"microseconds={rest}"])
  "datetime.timedelta(" ++ (if parts.isEmpty then "0" else ", ".intercalate parts) ++ ")"

def ParseFault.message : ParseFault → String
  | .malformed text => "Invalid isoformat string: " ++ Text.quoted text
  | .yearRange year => s!"year {year} is out of range"
  | .monthRange => "month must be in 1..12"
  | .dayRange => "day is out of range for month"
  | .hourRange => "hour must be in 0..23"
  | .minuteRange => "minute must be in 0..59"
  | .secondRange => "second must be in 0..59"
  | .offsetRange offset =>
    "offset must be a timedelta strictly between -timedelta(hours=24) and timedelta(hours=24), " ++
      "not " ++ distanceText offset ++ "."

namespace IsoReader

def byteAt (bs : List Nat) (i : Nat) : Nat := bs.getD i 0

def isDigit (b : Nat) : Bool := 48 ≤ b && b ≤ 57

def digitsAt (bs : List Nat) (i : Nat) : Nat → Option Nat
  | 0 => some 0
  | count + 1 => do
    let high ← digitsAt bs i count
    let b := byteAt bs (i + count)
    if isDigit b then some (high * 10 + (b - 48)) else none

def hyphen : Nat := 45
def colon : Nat := 58
def weekMark : Nat := 87

/-- Where the date ends. A week date without hyphens ends before an even count of digits. -/
def separatorPlace (bs : List Nat) : Option Nat :=
  let length := bs.length
  if length = 7 then some 7
  else if byteAt bs 4 = hyphen then
    if byteAt bs 5 = weekMark then
      if 8 < length ∧ byteAt bs 8 = hyphen then
        if length = 9 then none
        else if 10 < length ∧ isDigit (byteAt bs 10) then some 8
        else some 10
      else some 8
    else some 10
  else if byteAt bs 4 = weekMark then
    let place := 7 + ((bs.drop 7).takeWhile isDigit).length
    if place < 9 then some place
    else if place % 2 = 0 then some 7
    else some 8
  else some 8

def weekDay? (year week day : Nat) : Option Int :=
  let first := daysBeforeYear year
  let firstWeekday := weekday first
  let lastWeek :=
    -- A year has a week more when it starts on a Thursday, or on a Wednesday and is a leap year.
    if firstWeekday = 3 ∨ (firstWeekday = 2 ∧ leapDays year = 1) then 53 else 52
  if week < 1 ∨ lastWeek < week ∨ day < 1 ∨ 7 < day then none
  else
    let monday := first - firstWeekday + (if 3 < firstWeekday then 7 else 0)
    some (monday + 7 * ((week : Int) - 1) + ((day : Int) - 1))

/-- Year, month and day of a week date. A day before the year 1 has no month: it is given as 0. -/
def ofWeekDay (day : Int) : Nat × Nat × Nat :=
  if day < 0 then (1, 0, 0)
  else
    let date := Date.ofDay day
    (date.year.toNat, date.month, date.day.toNat)

def date? (bs : List Nat) (length : Nat) : Option (Nat × Nat × Nat) := do
  let year ← digitsAt bs 0 4
  let hyphens := byteAt bs 4 = hyphen
  let i := if hyphens then 5 else 4
  if byteAt bs i = weekMark then
    let week ← digitsAt bs (i + 1) 2
    let i := i + 3
    let day ←
      if i < length then
        if hyphens ∧ byteAt bs i ≠ hyphen then none
        else digitsAt bs (if hyphens then i + 1 else i) 1
      else some 1
    let n ← weekDay? year week day
    some (ofWeekDay n)
  else
    let month ← digitsAt bs i 2
    let i := i + 2
    if hyphens ∧ byteAt bs i ≠ hyphen then none
    else
      let day ← digitsAt bs (if hyphens then i + 1 else i) 2
      some (year, month, day)

structure Clock where
  hour : Nat
  minute : Nat
  second : Nat
  micro : Nat
  leftOver : Bool

def fraction? (bs : List Nat) (i stop : Nat) : Option (Nat × Bool) := do
  let count := min 6 (stop - i)
  let value ← digitsAt bs i count
  let skipped := ((bs.drop (i + count)).takeWhile isDigit).length
  some (value * Nat.pow 10 (6 - count), byteAt bs (i + count + skipped) ≠ 0)

def isDecimalMark (b : Nat) : Bool := b == 46 || b == 44

/--
The fields of a time of day still to come, two digits each, between two places; `done` holds those
read. A decimal mark behind any field starts the fraction of a second. A zero behind `stop` counts
as the end of the text.
-/
def fields? (bs : List Nat) (stop : Nat) (colons : Bool) :
    Nat → Nat → List Nat → Option (List Nat × Nat × Bool)
  | 0, i, done => do
    let (micro, leftOver) ← fraction? bs i stop
    some (done, micro, leftOver)
  | count + 1, i, done => do
    let field ← digitsAt bs i 2
    let mark := byteAt bs (i + 2)
    let colons := if done.isEmpty then mark == colon else colons
    let done := done ++ [field]
    if stop ≤ i + 3 then some (done, 0, mark != 0)
    else if colons && mark == colon then fields? bs stop colons count (i + 3) done
    else if isDecimalMark mark then
      let (micro, leftOver) ← fraction? bs (i + 3) stop
      some (done, micro, leftOver)
    else if !colons then fields? bs stop colons count (i + 2) done
    else none

def clock? (bs : List Nat) (start stop : Nat) : Option Clock := do
  let (fields, micro, leftOver) ← fields? bs stop false 3 start []
  some ⟨fields.getD 0 0, fields.getD 1 0, fields.getD 2 0, micro, leftOver⟩

/-- An offset in microseconds. A fraction counts only behind a whole second: alone it is none at
all. -/
def offsetSize (ahead : Clock) : Int :=
  let whole : Int :=
    ahead.hour * Time.hour + ahead.minute * Time.minute + ahead.second * Time.second
  if whole = 0 then 0 else whole + ahead.micro

def time? (bs : List Nat) : Option (Clock × Option Int) := do
  let isMark (b : Nat) : Bool := b == 43 || b == hyphen || b == 90
  let stop := (bs.takeWhile (fun b => !isMark b)).length
  let clock ← clock? bs 0 stop
  if stop = bs.length then
    if clock.leftOver then none else some (clock, none)
  else if byteAt bs stop = 90 then
    if byteAt bs (stop + 1) = 0 then some (clock, some 0) else none
  else
    let ahead ← clock? bs (stop + 1) bs.length
    if ahead.leftOver then none
    else
      let size := offsetSize ahead
      some (clock, some (if byteAt bs stop = hyphen then -size else size))

def characterLength (b : Nat) : Nat :=
  if b < 0x80 then 1 else if b / 16 = 0xE then 3 else if b / 16 = 0xF then 4 else 2

end IsoReader

open IsoReader in
def Moment.parse (text : String) : Except ParseFault Moment :=
  let bs := text.toUTF8.toList.map UInt8.toNat
  let found : Option ((Nat × Nat × Nat) × Clock × Option Int) := do
    if text.length < 7 then none
    else
      let place ← separatorPlace bs
      let date ← date? bs place
      if place < bs.length then
        let (clock, offset) ← time? (bs.drop (place + characterLength (byteAt bs place)))
        some (date, clock, offset)
      else some (date, ⟨0, 0, 0, 0, false⟩, none)
  match found with
  | none => .error (.malformed text)
  | some ((year, month, day), clock, offset) =>
    if dayLength ≤ (offset.getD 0).natAbs then .error (.offsetRange (offset.getD 0))
    else if year < 1 ∨ 9999 < year then .error (.yearRange year)
    else if month < 1 ∨ 12 < month then .error .monthRange
    else if day < 1 ∨ daysInMonth year month < day then .error .dayRange
    else if 24 ≤ clock.hour then .error .hourRange
    else if 60 ≤ clock.minute then .error .minuteRange
    else if 60 ≤ clock.second then .error .secondRange
    else
      let wall := (Date.toDay ⟨year, month, day⟩) * dayLength + clock.hour * hour +
        clock.minute * minute + clock.second * second + clock.micro
      match ofWall wall offset with
      | .ok m => .ok m
      | .error _ => .error (.yearRange year)

end DependencyGate.Time
