import AlarmHistory.Index.Calendar
import Mathlib.Algebra.Ring.Nat
import Mathlib.Data.List.Basic
import Mathlib.Data.Int.Init
import Mathlib.Tactic.ByContra

/- The calendar is the one that the rules of the Gregorian calendar give, walked hour by hour from the
   start of 1970 in both directions. -/
namespace AlarmHistory.Calendar

def LeapYear (year : Int) : Prop := 4 ∣ year ∧ (¬ 100 ∣ year ∨ 400 ∣ year)

instance (year : Int) : Decidable (LeapYear year) := inferInstanceAs (Decidable (_ ∧ _))

def monthLength (leap : Bool) : Nat → Nat
  | 2 => if leap then 29 else 28
  | 4 | 6 | 9 | 11 => 30
  | _ => 31

namespace Hour

def leap (h : Hour) : Bool := decide (LeapYear h.year)

def lastDay (h : Hour) : Nat := monthLength h.leap h.month

def next (h : Hour) : Hour :=
  if h.hour < 23 then { h with hour := h.hour + 1 }
  else if h.day < h.lastDay then { h with day := h.day + 1, hour := 0 }
  else if h.month < 12 then { h with month := h.month + 1, day := 1, hour := 0 }
  else ⟨h.year + 1, 1, 1, 0⟩

structure Valid (h : Hour) : Prop where
  month : 1 ≤ h.month ∧ h.month ≤ 12
  day : 1 ≤ h.day ∧ h.day ≤ h.lastDay
  hour : h.hour < 24

end Hour

/-- The hours of the calendar, numbered from the first one of 1970. -/
structure Gregorian (hours : Int → Hour) : Prop where
  epoch : hours 0 = ⟨1970, 1, 1, 0⟩
  next : ∀ n, hours (n + 1) = (hours n).next
  valid : ∀ n, (hours n).Valid

section Years

theorem isLeap_eq (year : Int) : isLeap year = decide (LeapYear year) := by
  rw [Bool.eq_iff_iff, decide_eq_true_eq]
  simp only [isLeap, LeapYear, Bool.and_eq_true, Bool.or_eq_true, beq_iff_eq, bne_iff_ne]
  omega

theorem daysBeforeYear_mono {year later : Int} (less : year < later) :
    daysBeforeYear (year + 1) ≤ daysBeforeYear later := by
  unfold daysBeforeYear
  omega

theorem yearOfDay_contains (day : Int) :
    daysBeforeYear (yearOfDay day) ≤ day ∧ day < daysBeforeYear (yearOfDay day + 1) := by
  have near : ∀ y, 146097 * y - 400 ≤ 400 * daysBeforeYear y ∧
      400 * daysBeforeYear y ≤ 146097 * y + 700 := by
    intro y
    unfold daysBeforeYear
    omega
  have below := near (day * 400 / 146097 - 1)
  have above := near (day * 400 / 146097 + 1 + 1)
  simp only [yearOfDay]
  split
  · rename_i early
    rw [Int.sub_add_cancel]
    exact ⟨by omega, early⟩
  · split
    · rename_i late
      exact ⟨late, by omega⟩
    · omega

end Years

section Months

/-- The days of a year before a month that is counted from 0. -/
def daysBeforeMonth (leap : Bool) (i : Nat) : Nat := ((monthLengths leap).take i).sum

theorem daysBeforeMonth_succ (leap : Bool) {i : Nat} (inside : i < 12) :
    daysBeforeMonth leap (i + 1) = daysBeforeMonth leap i + monthLength leap (i + 1) := by
  have all : ∀ leap, ∀ i < 12,
      daysBeforeMonth leap (i + 1) = daysBeforeMonth leap i + monthLength leap (i + 1) := by decide
  exact all leap i inside

theorem daysBeforeMonth_mono (leap : Bool) {i j : Nat} (less : i < j) (known : j ≤ 12) :
    daysBeforeMonth leap (i + 1) ≤ daysBeforeMonth leap j := by
  have all : ∀ leap, ∀ j < 13, ∀ i < j,
      daysBeforeMonth leap (i + 1) ≤ daysBeforeMonth leap j := by decide
  exact all leap j (Nat.lt_succ_of_le known) i less

theorem daysBeforeYear_succ (year : Int) : daysBeforeYear (year + 1) =
    daysBeforeYear year + daysBeforeMonth (decide (LeapYear year)) 12 := by
  unfold daysBeforeYear
  by_cases leap : LeapYear year
  · have days : daysBeforeMonth true 12 = 366 := rfl
    rw [decide_eq_true leap, days]
    unfold LeapYear at leap
    omega
  · have days : daysBeforeMonth false 12 = 365 := rfl
    rw [decide_eq_false leap, days]
    unfold LeapYear at leap
    omega

theorem monthLength_bounds (leap : Bool) (month : Nat) :
    1 ≤ monthLength leap month ∧ monthLength leap month ≤ 31 := by
  unfold monthLength
  split
  · cases leap <;> decide
  all_goals decide

theorem monthOfDay_spec (lengths : List Nat) (month day : Nat) (inside : day < lengths.sum) :
    ∃ i, i < lengths.length ∧ (lengths.take i).sum ≤ day ∧ day < (lengths.take (i + 1)).sum ∧
      monthOfDay month day lengths = (month + i, day - (lengths.take i).sum + 1) := by
  induction lengths generalizing month day with
  | nil => simp at inside
  | cons n rest ih =>
    cases rest with
    | nil => exact ⟨0, by simp, by simp, by simpa using inside, rfl⟩
    | cons m rest =>
      simp only [monthOfDay]
      split
      · rename_i here
        exact ⟨0, by simp, by simp, by simpa using here, rfl⟩
      · rename_i later
        have left : day - n < (m :: rest).sum := by
          rw [List.sum_cons] at inside
          omega
        obtain ⟨i, known, reached, before, found⟩ := ih (month + 1) (day - n) left
        refine ⟨i + 1, Nat.succ_lt_succ known, ?_, ?_, ?_⟩
        · rw [List.take_succ_cons, List.sum_cons]
          omega
        · rw [List.take_succ_cons, List.sum_cons]
          omega
        · rw [found, List.take_succ_cons, List.sum_cons, Nat.sub_sub, Nat.add_assoc,
            Nat.add_comm 1 i]

theorem monthOfDay_dates (leap : Bool) (day : Nat) (inside : day < daysBeforeMonth leap 12) :
    ∃ month date, monthOfDay 1 day (monthLengths leap) = (month, date) ∧
      (1 ≤ month ∧ month ≤ 12) ∧ (1 ≤ date ∧ date ≤ monthLength leap month) ∧
      daysBeforeMonth leap (month - 1) + (date - 1) = day := by
  have twelve : (monthLengths leap).length = 12 := by cases leap <;> rfl
  rw [daysBeforeMonth, List.take_of_length_le (Nat.le_of_eq twelve)] at inside
  obtain ⟨i, known, reached, before, found⟩ := monthOfDay_spec _ 1 day inside
  rw [twelve] at known
  have length := daysBeforeMonth_succ leap known
  simp only [daysBeforeMonth] at length reached ⊢
  rw [Nat.add_comm 1 i] at found
  exact ⟨_, _, found, by omega, by omega, by rw [Nat.add_sub_cancel, Nat.add_sub_cancel]; omega⟩

end Months

namespace Hour

def fields (h : Hour) : List Int := [h.year, h.month, h.day, h.hour]

theorem fields_lt_iff (h k : Hour) : h.fields < k.fields ↔ h.year < k.year ∨ h.year = k.year ∧
    (h.month < k.month ∨ h.month = k.month ∧
      (h.day < k.day ∨ h.day = k.day ∧ h.hour < k.hour)) := by
  simp only [fields, List.cons_lt_cons_iff, Int.ofNat_lt, Int.natCast_inj, List.lt_irrefl, and_false,
    or_false]

def dayOfYear (h : Hour) : Nat := daysBeforeMonth h.leap (h.month - 1) + (h.day - 1)

/-- How many hours after the first one of 1970 this one is. -/
def number (h : Hour) : Int := (daysBeforeYear h.year + h.dayOfYear - epochDay) * 24 + h.hour

namespace Valid
variable {h k : Hour}

theorem month_days (valid : h.Valid) :
    daysBeforeMonth h.leap h.month = daysBeforeMonth h.leap (h.month - 1) + h.lastDay := by
  obtain ⟨first, last⟩ := valid.month
  have days := daysBeforeMonth_succ h.leap (i := h.month - 1) (by omega)
  rwa [Nat.sub_add_cancel first] at days

theorem before_month (valid : h.Valid) : h.dayOfYear < daysBeforeMonth h.leap h.month := by
  obtain ⟨fromOne, inside⟩ := valid.day
  rw [valid.month_days, dayOfYear]
  omega

theorem month_mono (first : h.Valid) (second : k.Valid) (year : h.year = k.year)
    (month : h.month < k.month) :
    daysBeforeMonth h.leap h.month ≤ daysBeforeMonth k.leap (k.month - 1) := by
  obtain ⟨fromOne, _⟩ := first.month
  obtain ⟨_, last⟩ := second.month
  have mono := daysBeforeMonth_mono h.leap (i := h.month - 1) (j := k.month - 1) (by omega)
    (by omega)
  rw [Nat.sub_add_cancel fromOne] at mono
  rwa [leap, year] at mono ⊢

theorem before_year (valid : h.Valid) :
    daysBeforeYear h.year + h.dayOfYear < daysBeforeYear (h.year + 1) := by
  have before := valid.before_month
  obtain ⟨fromOne, last⟩ := valid.month
  have rest := daysBeforeMonth_mono h.leap (i := h.month - 1) (j := 12) (by omega) (by decide)
  rw [Nat.sub_add_cancel fromOne] at rest
  rw [daysBeforeYear_succ, ← leap]
  omega

theorem number_lt (first : h.Valid) (second : k.Valid) (less : h.fields < k.fields) :
    h.number < k.number := by
  have hours := first.hour
  have days : daysBeforeYear h.year + h.dayOfYear < daysBeforeYear k.year + k.dayOfYear ∨
      daysBeforeYear h.year + h.dayOfYear = daysBeforeYear k.year + k.dayOfYear ∧
        h.hour < k.hour := by
    rcases (fields_lt_iff h k).mp less with year | ⟨year, month | ⟨month, day | ⟨day, hour⟩⟩⟩
    · have before := first.before_year
      have later := daysBeforeYear_mono year
      omega
    · have before := first.before_month
      have later := first.month_mono second year month
      have reached : daysBeforeMonth k.leap (k.month - 1) ≤ k.dayOfYear := Nat.le_add_right _ _
      rw [year]
      omega
    · have fromOne := first.day.1
      unfold dayOfYear leap
      rw [year, month]
      omega
    · refine Or.inr ⟨?_, hour⟩
      unfold dayOfYear leap
      rw [year, month, day]
  unfold number
  omega

theorem unique (first : h.Valid) (second : k.Valid) (same : h.number = k.number) : h = k := by
  by_contra other
  have apart : h.fields < k.fields ∨ k.fields < h.fields := by
    rw [fields_lt_iff, fields_lt_iff]
    cases h; cases k
    simp only [mk.injEq] at other ⊢
    omega
  rcases apart with less | more
  · have earlier := first.number_lt second less
    omega
  · have later := second.number_lt first more
    omega

theorem next_valid (valid : h.Valid) : h.next.Valid := by
  obtain ⟨month, day, hour⟩ := valid
  unfold Hour.next
  split
  · rename_i early
    exact ⟨month, day, Nat.succ_lt_succ early⟩
  · split
    · rename_i more
      exact ⟨month, ⟨Nat.le_add_left 1 h.day, more⟩, Nat.succ_pos 23⟩
    · split
      · rename_i more
        exact ⟨⟨Nat.le_add_left 1 h.month, more⟩, ⟨Nat.le_refl 1, (monthLength_bounds _ _).1⟩,
          Nat.succ_pos 23⟩
      · exact ⟨⟨Nat.le_refl 1, Nat.succ_pos 11⟩, ⟨Nat.le_refl 1, (monthLength_bounds _ _).1⟩,
          Nat.succ_pos 23⟩

theorem next_number (valid : h.Valid) : h.next.number = h.number + 1 := by
  have days := valid.month_days
  obtain ⟨⟨first, last⟩, ⟨fromOne, inside⟩, hours⟩ := valid
  unfold Hour.next
  split
  · simp only [number, dayOfYear, leap]
    omega
  · have lastHour : h.hour = 23 := by omega
    split
    · simp only [number, dayOfYear, leap]
      omega
    · have lastDay : h.day = h.lastDay := by omega
      split
      · simp only [number, dayOfYear, leap, Nat.add_sub_cancel] at *
        omega
      · have lastMonth : h.month = 12 := by omega
        have none : ∀ leap, daysBeforeMonth leap 0 = 0 := fun _ => rfl
        rw [lastMonth] at days
        simp only [number, dayOfYear, daysBeforeYear_succ, Nat.sub_self, none, lastMonth]
        rw [← leap]
        omega

end Valid
end Hour

theorem hourOf_contains (ms : Int) :
    (hourOf ms).Valid ∧ (hourOf ms).number = ms / msPerHour := by
  obtain ⟨begun, ended⟩ := yearOfDay_contains (ms / msPerHour / 24 + epochDay)
  simp only [hourOf]
  generalize yearOfDay (ms / msPerHour / 24 + epochDay) = year at begun ended ⊢
  rw [daysBeforeYear_succ] at ended
  rw [isLeap_eq]
  obtain ⟨month, date, found, monthIn, dateIn, days⟩ := monthOfDay_dates (decide (LeapYear year))
    (ms / msPerHour / 24 + epochDay - daysBeforeYear year).toNat (by omega)
  rw [found]
  refine ⟨⟨monthIn, dateIn, by simp only; omega⟩, ?_⟩
  simp only [Hour.number, Hour.dayOfYear, Hour.leap, days]
  omega

/-- The hour that contains a time is the one hour of the calendar with that number. -/
theorem hourOf_eq_iff (ms : Int) (h : Hour) :
    hourOf ms = h ↔ h.Valid ∧ h.number = ms / msPerHour := by
  obtain ⟨valid, number⟩ := hourOf_contains ms
  constructor
  · rintro rfl
    exact ⟨valid, number⟩
  · rintro ⟨valid', number'⟩
    exact valid.unique valid' (number.trans number'.symm)

theorem hour_start (n : Int) : n * msPerHour / msPerHour = n := Int.mul_ediv_cancel n (by decide)

theorem gregorian_hours : Gregorian fun n => hourOf (n * msPerHour) where
  epoch := (hourOf_eq_iff _ _).mpr ⟨⟨by decide, by decide, by decide⟩, by decide⟩
  next n := by
    obtain ⟨valid, number⟩ := hourOf_contains (n * msPerHour)
    refine (hourOf_eq_iff _ _).mpr ⟨valid.next_valid, ?_⟩
    rw [valid.next_number, number, hour_start, hour_start]
  valid n := (hourOf_contains _).1

namespace Gregorian
variable {hours : Int → Hour} (calendar : Gregorian hours)
include calendar

theorem number_eq (n : Int) : (hours n).number = n := by
  have epoch : (hours 0).number = 0 := by
    rw [calendar.epoch]
    decide
  have step : ∀ n, (hours (n + 1)).number = (hours n).number + 1 := by
    intro n
    rw [calendar.next, (calendar.valid n).next_number]
  induction n using Int.induction_on with
  | zero => exact epoch
  | succ n ih => rw [step, ih]
  | pred n ih =>
    have before := step (-n - 1)
    rw [Int.sub_add_cancel, ih] at before
    omega

theorem hours_eq (ms : Int) : hours (ms / msPerHour) = hourOf ms :=
  ((hourOf_eq_iff ms _).mpr ⟨calendar.valid _, calendar.number_eq _⟩).symm

end Gregorian
end AlarmHistory.Calendar
