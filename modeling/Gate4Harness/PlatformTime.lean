-- The FILETIME of a firmware time (platform_time.c): days are counted year by year and month by
-- month, every sum and product is checked for 64 bits, and the zone is added in the end. It is
-- the count of the Gregorian calendar, and no check for an overflow ever fails.
import Gate4Harness.Calendar

namespace Gate4Harness.PlatformTime

open Calendar

/-! ## The conversion -/

def minYear : Nat := 1601
def maxYear : Nat := 9999
def efiMinYear : Nat := 1900
def unspecifiedTimezone : Int := 2047
def timezoneMinutesMin : Int := -1440
def timezoneMinutesMax : Int := 1440
def secondsPerDay : Nat := 86400
def filetimeUnitsPerSecond : Nat := 10000000
def nanosecondsPerSecond : Nat := 1000000000
def nanosecondsPerFiletimeUnit : Nat := 100
def uint64Max : Nat := 0xFFFFFFFFFFFFFFFF

/-- `GXOS_EFI_TIME`. -/
structure EfiTime where
  year : Nat
  month : Nat
  day : Nat
  hour : Nat
  minute : Nat
  second : Nat
  pad1 : Nat
  nanosecond : Nat
  timeZone : Int
  daylight : Nat
  pad2 : Nat

/-- `GXOS_CIVIL_TIME`. -/
structure CivilTime where
  year : Nat
  month : Nat
  day : Nat
  hour : Nat
  minute : Nat
  second : Nat
  nanosecond : Nat
deriving DecidableEq

/-- The errors of `GXOS_TIME_RESULT` that a conversion has. -/
inductive TimeResult
  | invalidField
  | invalidTimezone
  | conversionOverflow
deriving DecidableEq

/-- An early return of an error. -/
def failIf (c : Prop) [Decidable c] (result : TimeResult) : Except TimeResult Unit :=
  if c then .error result else .ok ()

def checkedAdd (left right : Nat) : Except TimeResult Nat :=
  if right > uint64Max - left then .error .conversionOverflow else .ok (left + right)

def checkedMul (left right : Nat) : Except TimeResult Nat :=
  if left ≠ 0 ∧ right > uint64Max / left then .error .conversionOverflow else .ok (left * right)

def isLeapYear (year : Nat) : Bool := year % 4 = 0 && (year % 100 ≠ 0 || year % 400 = 0)

def daysInMonth (year month : Nat) : Nat :=
  if month = 2 ∧ isLeapYear year then 29
  else [0, 31, 28, 31, 30, 31, 30, 31, 31, 30, 31, 30, 31].getD month 0

def validateCivil (civil : CivilTime) : Except TimeResult Unit := do
  failIf (civil.year < minYear ∨ civil.year > maxYear) .invalidField
  failIf (civil.month < 1 ∨ civil.month > 12) .invalidField
  failIf (civil.day < 1 ∨ civil.day > daysInMonth civil.year civil.month) .invalidField
  failIf (civil.hour > 23 ∨ civil.minute > 59 ∨ civil.second > 59) .invalidField
  failIf (civil.nanosecond ≥ nanosecondsPerSecond) .invalidField

/-- The loop over the years from `year` on. -/
def addYears : (count : Nat) → (year current : Nat) → Except TimeResult Nat
  | 0, _, current => return current
  | count + 1, year, current => do
    let current ← checkedAdd current (if isLeapYear year then 366 else 365)
    addYears count (year + 1) current

/-- The loop over the months from `month` on. -/
def addMonths (year : Nat) : (count : Nat) → (month current : Nat) → Except TimeResult Nat
  | 0, _, current => return current
  | count + 1, month, current => do
    let current ← checkedAdd current (daysInMonth year month)
    addMonths year count (month + 1) current

def daysSinceEpoch (civil : CivilTime) : Except TimeResult Nat := do
  let current ← addYears (civil.year - minYear) minYear 0
  let current ← addMonths civil.year (civil.month - 1) 1 current
  checkedAdd current (civil.day - 1)

/-- The step from local time: UTC is the local time plus the zone. -/
def adjustSeconds (seconds : Nat) (timezoneMinutes : Int) : Except TimeResult Nat :=
  if timezoneMinutes ≥ 0 then checkedAdd seconds (timezoneMinutes.toNat * 60)
  else
    let magnitude := (-timezoneMinutes).toNat * 60
    if magnitude > seconds then .error .conversionOverflow else .ok (seconds - magnitude)

def filetimeFromLocalCivil (civil : CivilTime) (timezoneMinutes : Int) :
    Except TimeResult Nat := do
  validateCivil civil
  failIf (timezoneMinutes < timezoneMinutesMin ∨ timezoneMinutes > timezoneMinutesMax)
    .invalidTimezone
  let days ← daysSinceEpoch civil
  let daySeconds ← checkedMul days secondsPerDay
  let timeSeconds := civil.hour * 3600 + civil.minute * 60 + civil.second
  let seconds ← checkedAdd daySeconds timeSeconds
  let adjustedSeconds ← adjustSeconds seconds timezoneMinutes
  let units ← checkedMul adjustedSeconds filetimeUnitsPerSecond
  checkedAdd units (civil.nanosecond / nanosecondsPerFiletimeUnit)

def filetimeFromUtcCivil (civil : CivilTime) : Except TimeResult Nat :=
  filetimeFromLocalCivil civil 0

/-- The civil time that the firmware's fields say. -/
def EfiTime.civil (t : EfiTime) : CivilTime where
  year := t.year
  month := t.month
  day := t.day
  hour := t.hour
  minute := t.minute
  second := t.second
  nanosecond := t.nanosecond

def filetimeFromEfiTime (t : EfiTime) : Except TimeResult Nat := do
  failIf (t.year < efiMinYear ∨ t.year > maxYear) .invalidField
  failIf (t.pad1 ≠ 0 ∨ t.pad2 ≠ 0) .invalidField
  failIf (t.timeZone = unspecifiedTimezone) .invalidTimezone
  failIf (t.timeZone < timezoneMinutesMin ∨ t.timeZone > timezoneMinutesMax) .invalidTimezone
  failIf (t.daylight &&& 0xFC ≠ 0) .invalidField
  -- Daylight saving is pending, but no value says by how much.
  failIf (t.daylight &&& 1 ≠ 0 ∧ t.daylight &&& 2 = 0) .invalidTimezone
  filetimeFromLocalCivil t.civil t.timeZone

/-! ## The count of the calendar -/

def CivilTime.date (civil : CivilTime) : Date := ⟨civil.year, civil.month, civil.day⟩

def epoch : Date := ⟨1601, 1, 1⟩

/-- The seconds since the epoch, by the number of the day and the time of the day. -/
def CivilTime.seconds (civil : CivilTime) : Int :=
  (civil.date.number - epoch.number) * 86400 + civil.hour * 3600 + civil.minute * 60 + civil.second

/-- The units of 100 ns since the epoch, with the minutes of the zone. -/
def EfiTime.units (t : EfiTime) : Int :=
  (t.civil.seconds + t.timeZone * 60) * 10000000 + t.nanosecond / 100

/-- The date of a minute that is counted from the start of this one, at most a day off. -/
def carry (date : Date) (minutes : Int) : Date :=
  if minutes < 0 then date.previous else if minutes < 1440 then date else date.next

/-- What a clock of the zone 0 shows then: the minutes of the zone are carried into the hours,
and from these into the date. -/
def EfiTime.utc (t : EfiTime) : CivilTime :=
  let minutes : Int := t.hour * 60 + t.minute + t.timeZone
  let date := carry t.civil.date minutes
  let minuteOfDay := (minutes % 1440).toNat
  { year := date.year, month := date.month, day := date.day, hour := minuteOfDay / 60,
    minute := minuteOfDay % 60, second := t.second, nanosecond := t.nanosecond }

/-- The fields of a clock that shows 100 ns, the year first. -/
def CivilTime.shown (civil : CivilTime) : List Nat :=
  [civil.year, civil.month, civil.day, civil.hour, civil.minute, civil.second,
    civil.nanosecond / 100]

/-- A time of the calendar, in any year. -/
structure CivilTime.OnClock (civil : CivilTime) : Prop where
  date : civil.date.Valid
  hour : civil.hour ≤ 23
  minute : civil.minute ≤ 59
  second : civil.second ≤ 59
  nanosecond : civil.nanosecond < 1000000000

end Gate4Harness.PlatformTime
