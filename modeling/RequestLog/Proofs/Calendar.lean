import RequestLog.Time.Civil
import Mathlib

/-! The calendar. The number of a date counts the dates that lie between it and 1 January 1970, one
after the other as the calendar has them, and each number is that of one date. -/

namespace RequestLog

namespace Date

/-! ### Years -/

def yearLength (year : Int) : Nat := if isLeap year then 366 else 365

theorem isLeap_iff {year : Int} :
    isLeap year = true ↔ year % 4 = 0 ∧ (year % 100 ≠ 0 ∨ year % 400 = 0) := by
  simp [isLeap]

theorem daysToYear_succ (year : Int) :
    daysToYear (year + 1) = daysToYear year + yearLength year := by
  have hleap : isLeap year = true ↔ _ := isLeap_iff
  unfold daysToYear yearLength
  split <;> simp_all <;> omega

theorem daysToYear_mono : Monotone daysToYear :=
  monotone_int_of_le_succ fun year => by
    rw [daysToYear_succ]
    omega

theorem daysToYear_add_lt {y y' : Int} {d : Nat} (hd : d < yearLength y) (h : y < y') :
    daysToYear y + d < daysToYear y' := by
  have hnext := daysToYear_mono (show y + 1 ≤ y' from h)
  rw [daysToYear_succ] at hnext
  omega

/-- The year in its era of 400 years, its century, its cycle of four years and its place in that. -/
theorem daysToYear_parts (e : Int) {c q k : Nat} (hc : c < 4) (hq : q < 25) (hk : k < 4) :
    daysToYear (e * 400 + c * 100 + q * 4 + k + 1) =
      e * 146097 + c * 36524 + q * 1461 + k * 365 := by
  unfold daysToYear
  omega

theorem yearLength_parts (e : Int) {c q k : Nat} (hc : c < 4) (hq : q < 25) (hk : k < 4) :
    yearLength (e * 400 + c * 100 + q * 4 + k + 1)
      = if k = 3 ∧ (q ≠ 24 ∨ c = 3) then 366 else 365 := by
  have hleap : isLeap (e * 400 + c * 100 + q * 4 + k + 1) = true ↔ k = 3 ∧ (q ≠ 24 ∨ c = 3) := by
    rw [isLeap_iff]
    omega
  simp only [yearLength, hleap]

theorem yearAndDay_spec (n : Int) :
    daysToYear (yearAndDay n).1 + (yearAndDay n).2 = n ∧
      (yearAndDay n).2 < yearLength (yearAndDay n).1 := by
  simp only [yearAndDay]
  -- The day in its era, and what is left of it in its century, its cycle and its year.
  obtain ⟨r, hr⟩ : ∃ r, r = (n % 146097).toNat := ⟨_, rfl⟩
  obtain ⟨c, hc⟩ : ∃ c, c = min (r / 36524) 3 := ⟨_, rfl⟩
  obtain ⟨r₁, hr₁⟩ : ∃ r₁, r₁ = r - c * 36524 := ⟨_, rfl⟩
  obtain ⟨q, hq⟩ : ∃ q, q = r₁ / 1461 := ⟨_, rfl⟩
  obtain ⟨r₂, hr₂⟩ : ∃ r₂, r₂ = r₁ - q * 1461 := ⟨_, rfl⟩
  obtain ⟨k, hk⟩ : ∃ k, k = min (r₂ / 365) 3 := ⟨_, rfl⟩
  simp only [← hr, ← hc, ← hr₁, ← hq, ← hr₂, ← hk]
  have hcentury : c < 4 ∧ r = c * 36524 + r₁ ∧ (r₁ < 36524 ∨ c = 3 ∧ r₁ = 36524) := by omega
  have hcycle : q < 25 ∧ r₁ = q * 1461 + r₂ ∧ r₂ < 1461 := by omega
  have hyear : k < 4 ∧ k * 365 ≤ r₂ ∧ (r₂ - k * 365 < 365 ∨ k = 3 ∧ r₂ - k * 365 = 365) := by omega
  rw [daysToYear_parts _ hcentury.1 hcycle.1 hyear.1,
    yearLength_parts _ hcentury.1 hcycle.1 hyear.1]
  refine ⟨by omega, ?_⟩
  split_ifs <;> omega

/-! ### Months -/

theorem daysIn_pos (year : Int) (month : Nat) : 0 < daysIn year month := by
  unfold daysIn
  split_ifs <;> decide

theorem daysIn_le (year : Int) (month : Nat) : daysIn year month ≤ 31 := by
  unfold daysIn
  split_ifs <;> decide

theorem daysBefore_succ (year : Int) {month : Nat} (h : 1 ≤ month) :
    daysBefore year (month + 1) = daysBefore year month + daysIn year month := by
  cases month with
  | zero => cases h
  | succ month => rfl

theorem daysBefore_mono (year : Int) {month month' : Nat} (h : month ≤ month') :
    daysBefore year month ≤ daysBefore year month' := by
  refine monotone_nat_of_le_succ (fun month => ?_) h
  rcases Nat.eq_zero_or_pos month with rfl | hpos
  · exact le_rfl
  · rw [daysBefore_succ year hpos]
    exact Nat.le_add_right _ _

theorem daysBefore_all (year : Int) : daysBefore year 13 = yearLength year := by
  cases h : isLeap year <;> simp [daysBefore, daysIn, yearLength, h]

theorem monthAndDay_spec {year : Int} {later month d : Nat} (h1 : 1 ≤ month)
    (h12 : month + later = 12) (hd : daysBefore year month + d < yearLength year) :
    month ≤ (monthAndDay year month later d).1 ∧ (monthAndDay year month later d).1 ≤ 12 ∧
      1 ≤ (monthAndDay year month later d).2 ∧
      (monthAndDay year month later d).2 ≤ daysIn year (monthAndDay year month later d).1 ∧
      daysBefore year (monthAndDay year month later d).1 + (monthAndDay year month later d).2
        = daysBefore year month + d + 1 := by
  have hsucc := daysBefore_succ year h1
  induction later generalizing month d with
  | zero =>
    obtain rfl : month = 12 := h12
    rw [← daysBefore_all, hsucc] at hd
    simp only [monthAndDay]
    omega
  | succ later ih =>
    rw [monthAndDay]
    split
    · simp only
      omega
    · rename_i hpast
      have hnext : 1 ≤ month + 1 := Nat.le_add_left 1 month
      have hrest : daysBefore year (month + 1) + (d - daysIn year month) < yearLength year := by
        omega
      have hlater := ih hnext (by omega) hrest (daysBefore_succ year hnext)
      omega

/-! ### Dates and their numbers -/

variable {date date' : Date}

theorem isValid_iff : date.isValid = true ↔
    (1 ≤ date.month ∧ date.month ≤ 12) ∧ 1 ≤ date.day ∧ date.day ≤ daysIn date.year date.month := by
  simp [isValid, and_assoc]

def dayOfYear (date : Date) : Nat := daysBefore date.year date.month + date.day

theorem toDay_eq (date : Date) :
    date.toDay = daysToYear date.year + date.dayOfYear - 1 - epochDay := by
  simp only [toDay, dayOfYear, Nat.cast_add]
  ring

theorem dayOfYear_le (h : date.isValid = true) : date.dayOfYear ≤ yearLength date.year := by
  obtain ⟨hmonth, hday⟩ := isValid_iff.1 h
  have hsucc := daysBefore_succ date.year hmonth.1
  have hall := daysBefore_mono date.year (show date.month + 1 ≤ 13 by omega)
  rw [daysBefore_all] at hall
  unfold dayOfYear
  omega

def Before (date date' : Date) : Prop :=
  date.year < date'.year ∨ date.year = date'.year ∧
    (date.month < date'.month ∨ date.month = date'.month ∧ date.day < date'.day)

theorem before_trichotomy (date date' : Date) :
    date.Before date' ∨ date = date' ∨ date'.Before date := by
  obtain ⟨y, m, d⟩ := date
  obtain ⟨y', m', d'⟩ := date'
  simp only [Before, Date.mk.injEq]
  omega

theorem toDay_lt_of_before (h : date.isValid = true) (h' : date'.isValid = true)
    (hb : date.Before date') : date.toDay < date'.toDay := by
  obtain ⟨hmonth, hday⟩ := isValid_iff.1 h
  obtain ⟨-, hday'⟩ := isValid_iff.1 h'
  have hlast := dayOfYear_le h
  rw [toDay_eq, toDay_eq]
  rcases hb with hy | ⟨hy, hm | ⟨hm, hd⟩⟩
  · have hyear := daysToYear_add_lt (d := date.dayOfYear - 1) (y := date.year) (by
      unfold dayOfYear at hlast ⊢
      omega) hy
    unfold dayOfYear at *
    omega
  · have hsucc := daysBefore_succ date.year hmonth.1
    have hlater := daysBefore_mono date.year (show date.month + 1 ≤ date'.month from hm)
    unfold dayOfYear
    rw [← hy]
    omega
  · unfold dayOfYear
    rw [← hy, ← hm]
    omega

/-- Dates have the order of their numbers. -/
theorem toDay_lt_iff (h : date.isValid = true) (h' : date'.isValid = true) :
    date.toDay < date'.toDay ↔ date.Before date' := by
  refine ⟨fun hlt => ?_, toDay_lt_of_before h h'⟩
  rcases before_trichotomy date date' with hb | rfl | hb
  · exact hb
  · exact absurd hlt (lt_irrefl _)
  · exact absurd hlt (toDay_lt_of_before h' h hb).asymm

theorem toDay_inj (h : date.isValid = true) (h' : date'.isValid = true)
    (heq : date.toDay = date'.toDay) : date = date' := by
  rcases before_trichotomy date date' with hb | rfl | hb
  · exact absurd heq (toDay_lt_of_before h h' hb).ne
  · rfl
  · exact absurd heq (toDay_lt_of_before h' h hb).ne'

theorem ofDay_spec (n : Int) : (ofDay n).isValid = true ∧ (ofDay n).toDay = n := by
  obtain ⟨hyear, hday⟩ := yearAndDay_spec (n + epochDay)
  have hfirst : daysBefore (yearAndDay (n + epochDay)).1 1 = 0 := rfl
  have hplace : daysBefore (yearAndDay (n + epochDay)).1 1 + (yearAndDay (n + epochDay)).2
      < yearLength (yearAndDay (n + epochDay)).1 := by
    rwa [hfirst, Nat.zero_add]
  have hmonth := monthAndDay_spec le_rfl (show 1 + 11 = 12 from rfl) hplace
  constructor
  · rw [isValid_iff]
    simp only [ofDay]
    omega
  · simp only [toDay_eq, dayOfYear, ofDay]
    omega

/-- A date is found again from its number. -/
theorem ofDay_toDay (h : date.isValid = true) : ofDay date.toDay = date :=
  toDay_inj (ofDay_spec _).1 h (ofDay_spec _).2

/-! ### One date after the other -/

def next (date : Date) : Date :=
  if date.day < daysIn date.year date.month then ⟨date.year, date.month, date.day + 1⟩
  else if date.month < 12 then ⟨date.year, date.month + 1, 1⟩
  else ⟨date.year + 1, 1, 1⟩

theorem next_spec (h : date.isValid = true) :
    date.next.isValid = true ∧ date.next.toDay = date.toDay + 1 := by
  obtain ⟨hmonth, hday⟩ := isValid_iff.1 h
  have hsucc := daysBefore_succ date.year hmonth.1
  rw [isValid_iff, toDay_eq, toDay_eq]
  unfold next dayOfYear
  split_ifs with hlast hdecember
  · simp only
    omega
  · have hpos := daysIn_pos date.year (date.month + 1)
    simp only
    omega
  · have hall := daysBefore_all date.year
    have hyear := daysToYear_succ date.year
    have hfirst : daysBefore (date.year + 1) 1 = 0 := rfl
    have hpos := daysIn_pos (date.year + 1) 1
    have hm : date.month = 12 := by omega
    rw [hm] at hsucc
    change daysBefore date.year 13 = _ at hsucc
    rw [hall] at hsucc
    simp only [hm] at *
    omega

theorem iterate_next_spec (h : date.isValid = true) (n : Nat) :
    (next^[n] date).isValid = true ∧ (next^[n] date).toDay = date.toDay + n := by
  induction n with
  | zero => exact ⟨h, (Int.add_zero _).symm⟩
  | succ n ih =>
    obtain ⟨hvalid, hday⟩ := next_spec ih.1
    rw [Function.iterate_succ_apply']
    refine ⟨hvalid, ?_⟩
    rw [hday, ih.2]
    push_cast
    ring

def epoch : Date := ⟨1970, 1, 1⟩

/-- The date is that of day `n`: it comes `n` dates after 1 January 1970, or for a negative number
this comes `-n` dates after it. -/
def IsDay (n : Int) (date : Date) : Prop :=
  date.isValid = true ∧ next^[n.toNat] epoch = next^[(-n).toNat] date

theorem isDay_iff {n : Int} : IsDay n date ↔ date.isValid = true ∧ date.toDay = n := by
  refine and_congr_right fun h => ?_
  have hepoch : epoch.isValid = true ∧ epoch.toDay = 0 := by decide
  obtain ⟨hvalid, hday⟩ := iterate_next_spec hepoch.1 n.toNat
  obtain ⟨hvalid', hday'⟩ := iterate_next_spec h (-n).toNat
  rw [hepoch.2] at hday
  constructor
  · intro heq
    rw [heq] at hday
    omega
  · intro heq
    exact toDay_inj hvalid hvalid' (by omega)

end Date

end RequestLog
