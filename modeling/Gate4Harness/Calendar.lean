-- The Gregorian calendar, carried back before its time. A date has a number, given in closed
-- form, and the day after it has the next number.
import Mathlib.Tactic.IntervalCases
import Mathlib.Tactic.Ring

namespace Gate4Harness.Calendar

/-! ## The calendar -/

def IsLeap (year : Nat) : Prop := 4 ∣ year ∧ (¬ 100 ∣ year ∨ 400 ∣ year)

instance (year : Nat) : Decidable (IsLeap year) := inferInstanceAs (Decidable (_ ∧ _))

def monthLength (year : Nat) : (month : Nat) → Nat
  | 2 => if IsLeap year then 29 else 28
  | 4 | 6 | 9 | 11 => 30
  | _ => 31

@[ext]
structure Date where
  year : Nat
  month : Nat
  day : Nat
deriving DecidableEq

structure Date.Valid (d : Date) : Prop where
  month_pos : 1 ≤ d.month
  month_le : d.month ≤ 12
  day_pos : 1 ≤ d.day
  day_le : d.day ≤ monthLength d.year d.month

/-- The day after. -/
def Date.next (d : Date) : Date :=
  if d.day < monthLength d.year d.month then { d with day := d.day + 1 }
  else if d.month < 12 then ⟨d.year, d.month + 1, 1⟩
  else ⟨d.year + 1, 1, 1⟩

/-- The day before. -/
def Date.previous (d : Date) : Date :=
  if 1 < d.day then { d with day := d.day - 1 }
  else if 1 < d.month then ⟨d.year, d.month - 1, monthLength d.year (d.month - 1)⟩
  else ⟨d.year - 1, 12, 31⟩

/-! ## The number of a day -/

/-- The days of the years before this one, the year 1 being the first. -/
def daysBeforeYear (year : Nat) : Int :=
  365 * ((year : Int) - 1) + ((year : Int) - 1) / 4 - ((year : Int) - 1) / 100 +
    ((year : Int) - 1) / 400

/-- The days of the months before this one. -/
def daysBeforeMonth (year month : Nat) : Int :=
  (367 * (month : Int) - 362) / 12 - (if month ≤ 2 then 0 else if IsLeap year then 1 else 2)

/-- The number of a day: day 1 is the first of January of the year 1. -/
def Date.number (d : Date) : Int :=
  daysBeforeYear d.year + daysBeforeMonth d.year d.month + d.day

theorem daysBeforeYear_succ (year : Nat) :
    daysBeforeYear (year + 1) = daysBeforeYear year + (if IsLeap year then 366 else 365) := by
  unfold daysBeforeYear
  push_cast
  by_cases hleap : IsLeap year
  · rw [if_pos hleap]
    unfold IsLeap at hleap
    omega
  · rw [if_neg hleap]
    unfold IsLeap at hleap
    omega

theorem daysBeforeYear_mono {y z : Nat} (h : y ≤ z) : daysBeforeYear y ≤ daysBeforeYear z := by
  unfold daysBeforeYear
  omega

theorem daysBeforeMonth_first (year : Nat) : daysBeforeMonth year 1 = 0 := by
  simp [daysBeforeMonth]

theorem daysBeforeMonth_succ (year : Nat) {month : Nat} (h : 1 ≤ month) (h' : month ≤ 11) :
    daysBeforeMonth year (month + 1) = daysBeforeMonth year month + monthLength year month := by
  unfold daysBeforeMonth
  interval_cases month <;> by_cases hleap : IsLeap year <;> simp [monthLength, hleap]

/-- December ends with the year. -/
theorem daysBeforeMonth_last (year : Nat) :
    daysBeforeMonth year 12 + 31 = if IsLeap year then 366 else 365 := by
  unfold daysBeforeMonth
  by_cases hleap : IsLeap year <;> simp [hleap]

theorem daysBeforeMonth_mono (year : Nat) {m n : Nat} (hm : 1 ≤ m) (h : m ≤ n) (hn : n ≤ 12) :
    daysBeforeMonth year m ≤ daysBeforeMonth year n := by
  induction n, h using Nat.le_induction with
  | base => exact le_refl _
  | succ n hmn ih =>
    rw [daysBeforeMonth_succ year (by omega) (by omega)]
    have := ih (by omega)
    omega

theorem monthLength_le (year month : Nat) : 28 ≤ monthLength year month ∧
    monthLength year month ≤ 31 := by
  unfold monthLength
  split
  · split <;> omega
  all_goals omega

/-! ## The days in their order -/

theorem Date.Valid.next {d : Date} (h : d.Valid) : d.next.Valid := by
  obtain ⟨hm, hm', hd, hd'⟩ := h
  have hlength := monthLength_le d.year (d.month + 1)
  have hjanuary := monthLength_le (d.year + 1) 1
  unfold Date.next
  split
  · exact ⟨hm, hm', Nat.le_add_left 1 _, by assumption⟩
  · split
    · exact ⟨Nat.le_add_left 1 _, by assumption, le_refl 1, by dsimp only; omega⟩
    · exact ⟨le_refl 1, Nat.le_add_left 1 _, le_refl 1, by dsimp only; omega⟩

theorem Date.number_next {d : Date} (h : d.Valid) : d.next.number = d.number + 1 := by
  obtain ⟨hm, hm', hd, hd'⟩ := h
  unfold Date.next
  split
  · simp only [Date.number]
    push_cast
    ring
  · split
    · simp only [Date.number]
      rw [daysBeforeMonth_succ _ hm (by omega)]
      omega
    · have hmonth : d.month = 12 := by omega
      have hlast := daysBeforeMonth_last d.year
      simp only [hmonth, monthLength] at hd' ‹¬ d.day < _›
      simp only [Date.number, daysBeforeYear_succ, daysBeforeMonth_first, hmonth]
      omega

theorem Date.Valid.previous {d : Date} (h : d.Valid) : d.previous.Valid := by
  obtain ⟨hm, hm', hd, hd'⟩ := h
  have hlength := monthLength_le d.year (d.month - 1)
  unfold Date.previous
  split
  · exact ⟨hm, hm', by dsimp only; omega, by dsimp only; omega⟩
  · split
    · exact ⟨by dsimp only; omega, by dsimp only; omega, by dsimp only; omega, le_refl _⟩
    · exact ⟨Nat.le_add_left 1 11, le_refl 12, Nat.le_add_left 1 30, le_refl 31⟩

theorem Date.next_previous {d : Date} (h : d.Valid) (hyear : 1 ≤ d.year) :
    d.previous.next = d := by
  obtain ⟨hm, hm', hd, hd'⟩ := h
  unfold Date.previous
  split
  · rw [Date.next, if_pos (by dsimp only; omega)]
    ext <;> dsimp only
    omega
  · split
    · rw [Date.next, if_neg (lt_irrefl _), if_pos (by dsimp only; omega)]
      ext <;> dsimp only <;> omega
    · have hmonth : monthLength (d.year - 1) 12 = 31 := rfl
      simp only [Date.next, hmonth, lt_irrefl, if_false]
      ext <;> dsimp only <;> omega

theorem Date.number_previous {d : Date} (h : d.Valid) (hyear : 1 ≤ d.year) :
    d.previous.number = d.number - 1 := by
  have hnext := Date.number_next h.previous
  rw [Date.next_previous h hyear] at hnext
  omega

/-- The days of a year follow those of the year before. -/
theorem Date.Valid.number_le {d : Date} (h : d.Valid) :
    daysBeforeYear d.year < d.number ∧ d.number ≤ daysBeforeYear (d.year + 1) := by
  obtain ⟨hm, hm', hd, hd'⟩ := h
  have hfirst := daysBeforeMonth_mono d.year (le_refl 1) hm hm'
  rw [daysBeforeMonth_first] at hfirst
  have hlast := daysBeforeMonth_last d.year
  unfold Date.number
  rw [daysBeforeYear_succ]
  refine ⟨by omega, ?_⟩
  by_cases hmonth : d.month = 12
  · simp only [hmonth, monthLength] at hd' ⊢
    omega
  · have hnext := daysBeforeMonth_succ d.year hm (by omega)
    have hmono := daysBeforeMonth_mono d.year (m := d.month + 1) (by omega) (by omega) (le_refl 12)
    omega

theorem number_lt_of_year {d e : Date} (hd : d.Valid) (he : e.Valid) (h : d.year < e.year) :
    d.number < e.number := by
  have hyears := daysBeforeYear_mono (y := d.year + 1) h
  have hlast := hd.number_le.2
  have hfirst := he.number_le.1
  omega

theorem number_lt_of_month {d e : Date} (hd : d.Valid) (he : e.Valid) (hyear : d.year = e.year)
    (h : d.month < e.month) : d.number < e.number := by
  have hnext := daysBeforeMonth_succ d.year hd.month_pos (by have := he.month_le; omega)
  have hmono := daysBeforeMonth_mono e.year (m := d.month + 1) (by omega) h he.month_le
  have hend := hd.day_le
  have hstart := he.day_pos
  rw [← hyear] at hmono
  unfold Date.number
  rw [← hyear]
  omega

end Gate4Harness.Calendar
