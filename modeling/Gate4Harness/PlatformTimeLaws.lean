-- The FILETIME is the count of the Gregorian calendar. Each loop adds up one part of the number
-- of the day, and from the year 1900 on the zone takes away less than there is.
import Gate4Harness.PlatformTime
import Mathlib.Data.List.Lex

namespace Gate4Harness.PlatformTime

open Calendar

variable {civil : CivilTime} {t : EfiTime}

/-! ## The arithmetic -/

@[simp]
theorem failIf_bind (c : Prop) [Decidable c] (result : TimeResult) {α : Type}
    (f : Unit → Except TimeResult α) :
    (failIf c result >>= f) = if c then .error result else f () := by
  unfold failIf
  split <;> rfl

theorem ok_bind {α β : Type} (a : α) (f : α → Except TimeResult β) :
    ((.ok a : Except TimeResult α) >>= f) = f a := rfl

theorem checkedAdd_eq {left right : Nat} (h : left + right ≤ uint64Max) :
    checkedAdd left right = .ok (left + right) := by
  rw [checkedAdd, if_neg (by omega)]

theorem checkedMul_eq {left right : Nat} (h : left * right ≤ uint64Max) :
    checkedMul left right = .ok (left * right) := by
  have hno : ¬ (left ≠ 0 ∧ right > uint64Max / left) := by
    rintro ⟨hleft, hright⟩
    have hle := (Nat.le_div_iff_mul_le (Nat.pos_of_ne_zero hleft)).mpr (Nat.mul_comm left right ▸ h)
    omega
  rw [checkedMul, if_neg hno]

theorem isLeapYear_iff (year : Nat) : isLeapYear year = true ↔ IsLeap year := by
  simp only [isLeapYear, IsLeap, Bool.and_eq_true, Bool.or_eq_true, decide_eq_true_eq]
  omega

theorem daysInMonth_eq (year : Nat) {month : Nat} (h : 1 ≤ month) (h' : month ≤ 12) :
    daysInMonth year month = monthLength year month := by
  unfold daysInMonth
  simp only [isLeapYear_iff]
  interval_cases month <;> by_cases hleap : IsLeap year <;> simp [monthLength, hleap]

/-! ## The day -/

theorem addYears_eq (count year current : Nat) (h : current + 366 * count ≤ uint64Max) :
    ∃ sum, addYears count year current = .ok sum ∧
      (sum : Int) = current + (daysBeforeYear (year + count) - daysBeforeYear year) := by
  induction count generalizing year current with
  | zero => exact ⟨current, rfl, by simp⟩
  | succ count ih =>
    have hyear := daysBeforeYear_succ year
    simp only [← isLeapYear_iff] at hyear
    have hstep : (if isLeapYear year = true then 366 else 365) ≤ 366 := by
      cases isLeapYear year
      · exact Nat.le_succ 365
      · exact Nat.le_refl 366
    obtain ⟨sum, hsum, heq⟩ := ih (year + 1)
      (current + (if isLeapYear year = true then 366 else 365)) (by omega)
    refine ⟨sum, ?_, ?_⟩
    · rw [addYears, checkedAdd_eq (by omega)]
      exact hsum
    · rw [heq, Nat.add_right_comm year 1 count, Nat.add_assoc year count 1, hyear]
      push_cast
      omega

theorem addMonths_eq (year count month current : Nat) (h : current + 31 * count ≤ uint64Max)
    (hmonth : 1 ≤ month) (hlast : month + count ≤ 12) :
    ∃ sum, addMonths year count month current = .ok sum ∧
      (sum : Int) =
        current + (daysBeforeMonth year (month + count) - daysBeforeMonth year month) := by
  induction count generalizing month current with
  | zero => exact ⟨current, rfl, by simp⟩
  | succ count ih =>
    have hlength := monthLength_le year month
    have hnext := daysBeforeMonth_succ year hmonth (by omega)
    obtain ⟨sum, hsum, heq⟩ := ih (month + 1) (current + monthLength year month) (by omega)
      (by omega) (by omega)
    refine ⟨sum, ?_, ?_⟩
    · rw [addMonths, daysInMonth_eq year hmonth (by omega), checkedAdd_eq (by omega)]
      exact hsum
    · rw [heq, Nat.add_right_comm month 1 count, Nat.add_assoc month count 1, hnext]
      push_cast
      omega

/-- What `validateCivil` asks for. -/
structure CivilTime.Valid (civil : CivilTime) : Prop extends civil.OnClock where
  minYear_le : 1601 ≤ civil.year
  le_maxYear : civil.year ≤ 9999

theorem validateCivil_cases (civil : CivilTime) :
    validateCivil civil = .error .invalidField ∨ (validateCivil civil = .ok () ∧ civil.Valid) := by
  rw [validateCivil]
  simp only [failIf_bind]
  rw [failIf]
  split
  · exact .inl rfl
  split
  · exact .inl rfl
  next hyear hmonth =>
  rw [daysInMonth_eq civil.year (by omega) (by omega)]
  split
  · exact .inl rfl
  split
  · exact .inl rfl
  split
  · exact .inl rfl
  next hday htime hnano =>
  simp only [minYear, maxYear, nanosecondsPerSecond] at hyear hnano
  refine .inr ⟨rfl, ⟨⟨?_, ?_, ?_, ?_⟩, by omega, by omega, by omega, by omega⟩, by omega, by omega⟩
  all_goals
    simp only [CivilTime.date]
    omega

theorem daysSinceEpoch_eq (h : civil.Valid) : ∃ days, daysSinceEpoch civil = .ok days ∧
    (days : Int) = civil.date.number - epoch.number := by
  have hmonth := h.date.month_pos
  have hmonth' := h.date.month_le
  have hday := h.date.day_pos
  have hday' := h.date.day_le
  have hlength := monthLength_le civil.year civil.month
  have hmin := h.minYear_le
  have hmax := h.le_maxYear
  simp only [CivilTime.date] at hmonth hmonth' hday hday'
  obtain ⟨years, hyears, hyearsEq⟩ := addYears_eq (civil.year - minYear) minYear 0
    (by simp only [uint64Max]; omega)
  rw [minYear, Nat.add_sub_cancel' hmin] at hyearsEq
  have hyearsLe : daysBeforeYear civil.year ≤ daysBeforeYear 9999 := daysBeforeYear_mono hmax
  have hnumbers : daysBeforeYear 9999 = 3651694 ∧ daysBeforeYear 1601 = 584388 := by decide
  obtain ⟨months, hmonths, hmonthsEq⟩ := addMonths_eq civil.year (civil.month - 1) 1 years
    (by simp only [uint64Max]; omega) (le_refl 1) (by omega)
  rw [Nat.add_sub_cancel' hmonth, daysBeforeMonth_first] at hmonthsEq
  have hmonthsLe := daysBeforeMonth_mono civil.year hmonth hmonth' (le_refl 12)
  have hdecember : daysBeforeMonth civil.year 12 ≤ 335 := by
    have hlast := daysBeforeMonth_last civil.year
    split at hlast <;> omega
  refine ⟨months + (civil.day - 1), ?_, ?_⟩
  · rw [daysSinceEpoch, minYear, ← minYear, hyears]
    change (addMonths civil.year (civil.month - 1) 1 years >>= _) = _
    rw [hmonths]
    exact checkedAdd_eq (by simp only [uint64Max]; omega)
  · have hepoch : epoch.number = 584389 := by decide
    rw [hepoch, CivilTime.date, Date.number]
    dsimp only
    omega

/-! ## The units -/

theorem adjustSeconds_eq {seconds : Nat} {timezoneMinutes : Int}
    (h : 0 ≤ (seconds : Int) + timezoneMinutes * 60)
    (hmax : (seconds : Int) + timezoneMinutes * 60 ≤ uint64Max) :
    ∃ adjusted, adjustSeconds seconds timezoneMinutes = .ok adjusted ∧
      (adjusted : Int) = seconds + timezoneMinutes * 60 := by
  unfold adjustSeconds
  split
  · exact ⟨_, checkedAdd_eq (by omega), by push_cast; omega⟩
  · dsimp only
    rw [if_neg (by omega)]
    exact ⟨_, rfl, by omega⟩

/-- A valid time that the zone does not carry before the epoch is converted. -/
theorem filetimeFromLocalCivil_eq {timezoneMinutes : Int} (h : civil.Valid)
    (hvalid : validateCivil civil = .ok ()) (hzone : -1440 ≤ timezoneMinutes)
    (hzone' : timezoneMinutes ≤ 1440) (hnonneg : 0 ≤ civil.seconds + timezoneMinutes * 60) :
    ∃ filetime, filetimeFromLocalCivil civil timezoneMinutes = .ok filetime ∧
      (filetime : Int) =
        (civil.seconds + timezoneMinutes * 60) * 10000000 + civil.nanosecond / 100 := by
  obtain ⟨days, hdays, hdaysEq⟩ := daysSinceEpoch_eq h
  have hnumber := h.date.number_le.2
  have hyear : daysBeforeYear (civil.year + 1) ≤ daysBeforeYear 10000 :=
    daysBeforeYear_mono (Nat.succ_le_succ h.le_maxYear)
  have hbounds : daysBeforeYear 10000 = 3652059 ∧ epoch.number = 584389 := by decide
  have hhour := h.hour
  have hminute := h.minute
  have hsecond := h.second
  have hnano := h.nanosecond
  have hseconds : civil.seconds =
    (days * 86400 + (civil.hour * 3600 + civil.minute * 60 + civil.second) : Nat) := by
    rw [CivilTime.seconds, ← hdaysEq]
    push_cast
    ring
  have hdaysLe : days ≤ 3067670 := by
    change civil.date.number ≤ daysBeforeYear (civil.year + 1) at hnumber
    omega
  rw [hseconds] at hnonneg ⊢
  obtain ⟨adjusted, hadjusted, hadjustedEq⟩ :=
    adjustSeconds_eq hnonneg (by simp only [uint64Max]; omega)
  refine ⟨adjusted * 10000000 + civil.nanosecond / 100, ?_, ?_⟩
  · rw [filetimeFromLocalCivil, hvalid, ok_bind, failIf_bind, if_neg, hdays, ok_bind,
      checkedMul_eq, ok_bind]
    · dsimp only
      rw [checkedAdd_eq, ok_bind, secondsPerDay, hadjusted, ok_bind, checkedMul_eq, ok_bind,
        checkedAdd_eq]
      · rfl
      all_goals
        simp only [filetimeUnitsPerSecond, nanosecondsPerFiletimeUnit, secondsPerDay, uint64Max]
        omega
    all_goals
      simp only [timezoneMinutesMin, timezoneMinutesMax, secondsPerDay, uint64Max]
      omega
  · rw [← hadjustedEq]
    push_cast
    rfl

/-! ## The clock of the zone 0 -/

/-- What `filetimeFromEfiTime` asks for, as far as the count needs it. -/
structure EfiTime.Sound (t : EfiTime) : Prop where
  civil : t.civil.Valid
  efiMinYear_le : 1900 ≤ t.year
  zone : -1440 ≤ t.timeZone ∧ t.timeZone ≤ 1440

/-- A firmware time is converted, or it is refused for its fields. -/
theorem filetimeFromEfiTime_cases (t : EfiTime) :
    (∃ result, filetimeFromEfiTime t = .error result ∧ result ≠ .conversionOverflow) ∨
      (t.Sound ∧
        ∃ filetime, filetimeFromEfiTime t = .ok filetime ∧ (filetime : Int) = t.units) := by
  rw [filetimeFromEfiTime]
  simp only [failIf_bind]
  split
  · exact .inl ⟨_, rfl, by decide⟩
  split
  · exact .inl ⟨_, rfl, by decide⟩
  split
  · exact .inl ⟨_, rfl, by decide⟩
  split
  · exact .inl ⟨_, rfl, by decide⟩
  split
  · exact .inl ⟨_, rfl, by decide⟩
  split
  · exact .inl ⟨_, rfl, by decide⟩
  next hyear _ _ hzone _ _ =>
  simp only [efiMinYear, maxYear, timezoneMinutesMin, timezoneMinutesMax] at hyear hzone
  obtain hbad | ⟨hvalid, hcivil⟩ := validateCivil_cases t.civil
  · refine .inl ⟨.invalidField, ?_, by decide⟩
    rw [filetimeFromLocalCivil, hbad]
    rfl
  · have hfirst : daysBeforeYear 1900 ≤ daysBeforeYear t.civil.year :=
      daysBeforeYear_mono (by simp only [EfiTime.civil]; omega)
    have hday := hcivil.date.number_le.1
    change daysBeforeYear t.civil.year < _ at hday
    have hnumbers : daysBeforeYear 1900 = 693595 ∧ epoch.number = 584389 := by decide
    have hnonneg : 0 ≤ t.civil.seconds + t.timeZone * 60 := by
      rw [CivilTime.seconds]
      omega
    exact .inr ⟨⟨hcivil, by omega, by omega⟩,
      filetimeFromLocalCivil_eq hcivil hvalid (by omega) (by omega) hnonneg⟩

theorem carry_valid {date : Date} (h : date.Valid) (minutes : Int) :
    (carry date minutes).Valid := by
  unfold carry
  split
  · exact h.previous
  · split
    · exact h
    · exact h.next

theorem number_carry {date : Date} (h : date.Valid) (hyear : 1 ≤ date.year) {minutes : Int}
    (hlow : -1440 ≤ minutes) (hhigh : minutes < 2880) :
    (carry date minutes).number = date.number + minutes / 1440 := by
  unfold carry
  split
  · rw [Date.number_previous h hyear]
    omega
  · split
    · omega
    · rw [Date.number_next h]
      omega

theorem EfiTime.Sound.utc_onClock (h : t.Sound) : t.utc.OnClock := by
  have hsecond := h.civil.second
  have hnano := h.civil.nanosecond
  refine ⟨carry_valid h.civil.date _, ?_, ?_, hsecond, hnano⟩
  all_goals
    simp only [EfiTime.utc]
    omega

/-- Carrying the zone into the date does not change the count. -/
theorem EfiTime.Sound.seconds_utc (h : t.Sound) :
    t.utc.seconds = t.civil.seconds + t.timeZone * 60 := by
  have hhour := h.civil.hour
  have hminute := h.civil.minute
  have hzone := h.zone
  have hyear : 1 ≤ t.civil.date.year := Nat.le_trans (by decide) h.civil.minYear_le
  simp only [EfiTime.civil] at hhour hminute
  unfold CivilTime.seconds
  have hdate : t.utc.date.number = t.civil.date.number +
      ((t.hour * 60 + t.minute + t.timeZone : Int) / 1440) :=
    number_carry h.civil.date hyear (by omega) (by omega)
  rw [hdate]
  simp only [EfiTime.utc, EfiTime.civil]
  omega

/-- A later reading of a clock has the larger count. -/
theorem CivilTime.OnClock.lt_of_shown {c d : CivilTime} (hc : c.OnClock) (hd : d.OnClock)
    (h : c.shown < d.shown) :
    c.seconds * 10000000 + c.nanosecond / 100 < d.seconds * 10000000 + d.nanosecond / 100 := by
  obtain ⟨hcdate, hchour, hcminute, hcsecond, hcnano⟩ := hc
  obtain ⟨hddate, hdhour, hdminute, hdsecond, hdnano⟩ := hd
  simp only [shown, List.cons_lt_cons_iff, List.not_lt_nil, and_false, or_false] at h
  unfold CivilTime.seconds
  have hnumber : c.date.number < d.date.number ∨ (c.date = d.date ∧ (c.hour < d.hour ∨
      c.hour = d.hour ∧ (c.minute < d.minute ∨ c.minute = d.minute ∧ (c.second < d.second ∨
        c.second = d.second ∧ c.nanosecond / 100 < d.nanosecond / 100)))) := by
    rcases h with hyear | ⟨hyear, hmonth | ⟨hmonth, hday | ⟨hday, htime⟩⟩⟩
    · exact .inl (number_lt_of_year hcdate hddate hyear)
    · exact .inl (number_lt_of_month hcdate hddate hyear hmonth)
    · left
      simp only [CivilTime.date, Date.number, hyear, hmonth]
      omega
    · exact .inr ⟨by simp only [CivilTime.date, hyear, hmonth, hday], htime⟩
  rcases hnumber with hnumber | ⟨hdate, htime⟩
  · omega
  · rw [hdate]
    omega

theorem EfiTime.Sound.units_eq (h : t.Sound) :
    t.units = t.utc.seconds * 10000000 + t.utc.nanosecond / 100 := by
  rw [h.seconds_utc]
  rfl

theorem EfiTime.Sound.units_lt_iff {s : EfiTime} (hs : s.Sound) (ht : t.Sound) :
    s.units < t.units ↔ s.utc.shown < t.utc.shown := by
  constructor
  · intro hlt
    rcases lt_trichotomy s.utc.shown t.utc.shown with h | h | h
    · exact h
    · have heq : s.utc.seconds = t.utc.seconds ∧
          s.utc.nanosecond / 100 = t.utc.nanosecond / 100 := by
        simp only [CivilTime.shown, List.cons.injEq] at h
        obtain ⟨hyear, hmonth, hday, hhour, hminute, hsecond, hnano, _⟩ := h
        simp only [CivilTime.seconds, CivilTime.date, hyear, hmonth, hday, hhour, hminute, hsecond,
          hnano, and_self]
      rw [hs.units_eq, ht.units_eq, heq.1] at hlt
      omega
    · have hgt := ht.utc_onClock.lt_of_shown hs.utc_onClock h
      rw [← hs.units_eq, ← ht.units_eq] at hgt
      exact absurd hlt (lt_asymm hgt)
  · intro h
    rw [hs.units_eq, ht.units_eq]
    exact hs.utc_onClock.lt_of_shown ht.utc_onClock h

theorem units_of_accepted {filetime : Nat} (h : filetimeFromEfiTime t = .ok filetime) :
    t.Sound ∧ (filetime : Int) = t.units := by
  rcases filetimeFromEfiTime_cases t with ⟨result, hresult, _⟩ | ⟨hsound, value, hvalue, heq⟩
  · rw [h] at hresult
    cases hresult
  · rw [h] at hvalue
    cases hvalue
    exact ⟨hsound, heq⟩

/-- The FILETIME of an accepted firmware time is its count in the Gregorian calendar. It grows
with what a clock of the zone 0 shows, the zone it was read in makes no difference, and no
conversion overflows. -/
theorem filetime_is_gregorian :
    (∀ t filetime, filetimeFromEfiTime t = .ok filetime → (filetime : Int) = t.units) ∧
    (∀ s t first second, filetimeFromEfiTime s = .ok first → filetimeFromEfiTime t = .ok second →
      (first < second ↔ s.utc.shown < t.utc.shown)) ∧
    (∀ s t first second, filetimeFromEfiTime s = .ok first → filetimeFromEfiTime t = .ok second →
      s.utc = t.utc → first = second) ∧
    ∀ t, filetimeFromEfiTime t ≠ .error .conversionOverflow := by
  refine ⟨fun t filetime h => (units_of_accepted h).2, ?_, ?_, ?_⟩
  · intro s t first second hs ht
    obtain ⟨hsound, hfirst⟩ := units_of_accepted hs
    obtain ⟨htound, hsecond⟩ := units_of_accepted ht
    rw [← hsound.units_lt_iff htound, ← hfirst, ← hsecond, Int.ofNat_lt]
  · intro s t first second hs ht heq
    obtain ⟨hsound, hfirst⟩ := units_of_accepted hs
    obtain ⟨htound, hsecond⟩ := units_of_accepted ht
    rw [hsound.units_eq, heq, ← htound.units_eq, ← hsecond] at hfirst
    exact Int.ofNat_inj.mp hfirst
  · intro t h
    rcases filetimeFromEfiTime_cases t with ⟨result, hresult, hne⟩ | ⟨_, value, hvalue, _⟩
    · rw [h] at hresult
      cases hresult
      exact hne rfl
    · rw [h] at hvalue
      cases hvalue

/-- The last half hour of a leap day, an hour west of the zone 0. -/
def leapEvening : EfiTime where
  year := 2000
  month := 2
  day := 29
  hour := 23
  minute := 30
  second := 0
  pad1 := 0
  nanosecond := 500
  timeZone := 60
  daylight := 0
  pad2 := 0

/-- The same instant, where the first of March has begun. -/
def marchMorning : EfiTime :=
  { leapEvening with month := 3, day := 1, hour := 0, timeZone := 0 }

theorem the_leap_evening_is_the_march_morning :
    filetimeFromEfiTime leapEvening = filetimeFromEfiTime marchMorning ∧
      leapEvening.units = 125963442000000005 := by
  have hevening : filetimeFromEfiTime leapEvening = .ok 125963442000000005 := by decide +kernel
  have hmorning : filetimeFromEfiTime marchMorning = .ok 125963442000000005 := by decide +kernel
  have hsame := filetime_is_gregorian.2.2.1 _ _ _ _ hevening hmorning (by decide +kernel)
  exact ⟨hevening.trans (hsame ▸ hmorning.symm), (filetime_is_gregorian.1 _ _ hevening).symm⟩

end Gate4Harness.PlatformTime
