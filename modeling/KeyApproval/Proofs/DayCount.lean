import KeyApproval.Calendar.Date
import Mathlib.Algebra.Order.Group.Int
import Mathlib.Tactic.IntervalCases

/-!
# Days counted one by one

What a date is and which one follows it, said with the lengths of months and the rule of leap years alone.
Counting from Thursday, 1970-01-01, one day after the other and one before the other, reaches every date, and
the number of days counted is the one that the arithmetic with eras and centuries gives.
-/

namespace KeyApproval.Calendar

/-! ### The rules of the calendar -/

/-- Every fourth year is a leap year; of those that begin a century, every fourth. -/
def IsLeap (year : Int) : Prop := year % 4 = 0 ∧ (year % 100 = 0 → year % 400 = 0)

instance (year : Int) : Decidable (IsLeap year) := by unfold IsLeap; infer_instance

def daysInMonth (year : Int) (month : Nat) : Nat :=
  if month = 2 then if IsLeap year then 29 else 28
  else if month ∈ [4, 6, 9, 11] then 30
  else 31

structure Date.IsValid (d : Date) : Prop where
  month : 1 ≤ d.month ∧ d.month ≤ 12
  day : 1 ≤ d.day ∧ d.day ≤ daysInMonth d.year d.month

def Date.next (d : Date) : Date :=
  if d.day < daysInMonth d.year d.month then { d with day := d.day + 1 }
  else if d.month < 12 then ⟨d.year, d.month + 1, 1⟩
  else ⟨d.year + 1, 1, 1⟩

/-- Dates and places in the week, numbered by the days from Thursday, 1970-01-01, to them. -/
inductive Counted : Date → (weekday : Nat) → Int → Prop where
  | epoch : Counted ⟨1970, 1, 1⟩ 4 0
  | next {d : Date} {weekday : Nat} {n : Int} (h : Counted d weekday n) :
      Counted d.next ((weekday + 1) % 7) (n + 1)
  | previous {d : Date} {weekday : Nat} {n : Int} (valid : d.IsValid) (hweekday : weekday < 7)
      (h : Counted d.next ((weekday + 1) % 7) (n + 1)) : Counted d weekday n

variable {d : Date}

theorem length_month (year : Int) (month : Nat) :
    28 ≤ daysInMonth year month ∧ daysInMonth year month ≤ 31 := by
  unfold daysInMonth
  split
  · split <;> omega
  · split <;> omega

theorem Date.IsValid.next (h : d.IsValid) : d.next.IsValid := by
  obtain ⟨hmonth, hday⟩ := h
  unfold Date.next
  by_cases hinside : d.day < daysInMonth d.year d.month
  · rw [if_pos hinside]
    exact ⟨hmonth, by dsimp only; omega⟩
  rw [if_neg hinside]
  by_cases hyear : d.month < 12
  · rw [if_pos hyear]
    have hlength := length_month d.year (d.month + 1)
    exact ⟨by dsimp only; omega, by dsimp only; omega⟩
  · rw [if_neg hyear]
    have hlength := length_month (d.year + 1) 1
    exact ⟨by dsimp only; omega, by dsimp only; omega⟩

/-! ### Years from March -/

/-- A year from March has a day more if the February at its end has. -/
structure MarchDate.IsValid (d : MarchDate) : Prop where
  dayOfYear : d.dayOfYear ≤ 365
  last : d.dayOfYear = 365 → IsLeap (d.year + 1)

/-- The days of the years before a year, leap days included. -/
def daysBeforeYear (year : Int) : Int := 365 * year + year / 4 - year / 100 + year / 400

theorem MarchDate.dayNumber_eq (d : MarchDate) :
    d.dayNumber = daysBeforeYear d.year + d.dayOfYear - epochOffset := rfl

theorem daysBeforeYear_succ (year : Int) :
    daysBeforeYear (year + 1) = daysBeforeYear year + if IsLeap (year + 1) then 366 else 365 := by
  unfold daysBeforeYear
  by_cases hleap : IsLeap (year + 1)
  · rw [if_pos hleap]
    unfold IsLeap at hleap
    omega
  · rw [if_neg hleap]
    unfold IsLeap at hleap
    omega

theorem daysBeforeYear_lt_succ (year : Int) : daysBeforeYear year < daysBeforeYear (year + 1) := by
  rw [daysBeforeYear_succ]
  split <;> omega

theorem daysBeforeYear_le {year year' : Int} (h : year ≤ year') :
    daysBeforeYear year ≤ daysBeforeYear year' :=
  (strictMono_int_of_lt_succ daysBeforeYear_lt_succ).monotone h

theorem MarchDate.IsValid.lt_succ {d : MarchDate} (h : d.IsValid) :
    daysBeforeYear d.year + d.dayOfYear < daysBeforeYear (d.year + 1) := by
  rw [daysBeforeYear_succ]
  have hle := h.dayOfYear
  by_cases hleap : IsLeap (d.year + 1)
  · rw [if_pos hleap]
    omega
  · have hlast : d.dayOfYear ≠ 365 := fun heq => hleap (h.last heq)
    rw [if_neg hleap]
    omega

/-- No two days of different years have one number, as each year begins after the one before it. -/
theorem MarchDate.year_le_of_dayNumber_eq {d d' : MarchDate} (h : d.IsValid)
    (heq : d.dayNumber = d'.dayNumber) : d'.year ≤ d.year := by
  rw [dayNumber_eq, dayNumber_eq] at heq
  by_contra hlt
  have hmono : daysBeforeYear (d.year + 1) ≤ daysBeforeYear d'.year :=
    daysBeforeYear_le (by omega)
  have hend := h.lt_succ
  omega

theorem MarchDate.eq_of_dayNumber_eq {d d' : MarchDate} (h : d.IsValid) (h' : d'.IsValid)
    (heq : d.dayNumber = d'.dayNumber) : d = d' := by
  have hyear : d.year = d'.year :=
    le_antisymm (year_le_of_dayNumber_eq h' heq.symm) (year_le_of_dayNumber_eq h heq)
  rw [dayNumber_eq, dayNumber_eq, hyear] at heq
  obtain ⟨year, dayOfYear⟩ := d
  obtain ⟨year', dayOfYear'⟩ := d'
  dsimp only at hyear heq
  rw [hyear, MarchDate.mk.injEq]
  exact ⟨rfl, by omega⟩

/-- The leap day is the last day of the last year of a group of four, and no century ends with one but the
last of its era. -/
theorem MarchDate.isValid_ofDayNumber (n : Int) : (MarchDate.ofDayNumber n).IsValid := by
  refine ⟨dayOfYear_ofDayNumber_le n, fun hlast => ?_⟩
  revert hlast
  simp only [ofDayNumber, epochOffset, daysPerEra, IsLeap]
  generalize (n + 719468) / (146097 : Nat) = era
  generalize hrest : ((n + 719468) % (146097 : Nat)).toNat = rest
  have hlt : rest < 146097 := by omega
  generalize hcentury : min 3 (rest / 36524) = century
  have hc : century ≤ 3 := by omega
  generalize hin : rest - 36524 * century = inCentury
  have hend : inCentury = 36524 → century = 3 := by omega
  have hbound : inCentury ≤ 36524 := by omega
  generalize hgroup : inCentury / 1461 = group
  generalize hyear : min 3 (inCentury % 1461 / 365) = year
  intro hlast
  have hy : year = 3 := by omega
  have hg : group = 24 → inCentury = 36524 := by omega
  have hg' : group ≤ 24 := by omega
  omega

/-! ### Months -/

theorem daysBeforeMonth_le (dayOfYear : Nat) : daysBeforeMonth ((5 * dayOfYear + 2) / 153) ≤ dayOfYear := by
  unfold daysBeforeMonth
  omega

theorem Date.toMarch_ofMarch {m : MarchDate} (h : m.dayOfYear ≤ 365) : (Date.ofMarch m).toMarch = m := by
  have hle := daysBeforeMonth_le m.dayOfYear
  unfold Date.ofMarch Date.toMarch
  dsimp only
  generalize hmonth : (5 * m.dayOfYear + 2) / 153 = fromMarch at *
  have hfromMarch : fromMarch ≤ 11 := by omega
  have hday : daysBeforeMonth fromMarch + (m.dayOfYear - daysBeforeMonth fromMarch + 1) - 1 =
      m.dayOfYear := by
    omega
  by_cases hearly : fromMarch < 10
  · have hback : fromMarch + 3 - 3 = fromMarch := by omega
    simp only [if_pos hearly, if_pos (Nat.le_add_left 3 fromMarch), hback, hday]
  · have hlate : ¬3 ≤ fromMarch - 9 := by omega
    have hback : fromMarch - 9 + 9 = fromMarch := by omega
    simp only [if_neg hearly, if_neg hlate, hback, hday, Int.add_sub_cancel]

/-- The number of a date is read off it, for every number. -/
theorem Date.dayNumber_ofDayNumber (n : Int) : (Date.ofDayNumber n).dayNumber = n := by
  rw [Date.dayNumber, Date.ofDayNumber, toMarch_ofMarch (MarchDate.dayOfYear_ofDayNumber_le n),
    MarchDate.dayNumber_ofDayNumber]

/-- Every month but February ends where the next one of its year begins. -/
theorem daysBeforeMonth_succ {fromMarch : Nat} (h : fromMarch < 11) (year : Int) :
    daysBeforeMonth (fromMarch + 1) = daysBeforeMonth fromMarch +
      daysInMonth year (if fromMarch < 10 then fromMarch + 3 else fromMarch - 9) := by
  interval_cases fromMarch <;> rfl

theorem Date.isValid_ofMarch {m : MarchDate} (h : m.IsValid) : (Date.ofMarch m).IsValid := by
  obtain ⟨hle, hlast⟩ := h
  unfold Date.ofMarch
  dsimp only
  have hbegin := daysBeforeMonth_le m.dayOfYear
  generalize hmonth : (5 * m.dayOfYear + 2) / 153 = fromMarch at *
  have hend : m.dayOfYear < daysBeforeMonth (fromMarch + 1) := by
    unfold daysBeforeMonth
    omega
  by_cases hearly : fromMarch < 10
  · rw [if_pos hearly]
    have hbelow : fromMarch < 11 := by omega
    have hlength := daysBeforeMonth_succ hbelow m.year
    rw [if_pos hearly] at hlength
    exact ⟨by dsimp only; omega, by dsimp only; omega⟩
  rw [if_neg hearly]
  by_cases hjanuary : fromMarch = 10
  · subst hjanuary
    have hlength := daysBeforeMonth_succ (show 10 < 11 by decide) (m.year + 1)
    rw [if_neg hearly] at hlength
    exact ⟨by dsimp only; omega, by dsimp only; omega⟩
  · have hfebruary : fromMarch = 11 := by omega
    subst hfebruary
    have hstart : daysBeforeMonth 11 = 337 := rfl
    have hlength : daysInMonth (m.year + 1) 2 = if IsLeap (m.year + 1) then 29 else 28 := rfl
    refine ⟨by dsimp only; omega, ?_⟩
    dsimp only
    rw [hstart, hlength]
    by_cases hleap : IsLeap (m.year + 1)
    · rw [if_pos hleap]
      omega
    · have hshort : m.dayOfYear ≠ 365 := fun heq => hleap (hlast heq)
      rw [if_neg hleap]
      omega

theorem Date.isValid_ofDayNumber (n : Int) : (Date.ofDayNumber n).IsValid :=
  isValid_ofMarch (MarchDate.isValid_ofDayNumber n)

/-! ### The next day -/

/-- The place of a month in its year from March. -/
def monthFromMarch (month : Nat) : Nat := if 3 ≤ month then month - 3 else month + 9

/-- The days before a month. -/
def monthStart (year : Int) (month : Nat) : Int :=
  daysBeforeYear (if 3 ≤ month then year else year - 1) + daysBeforeMonth (monthFromMarch month)

theorem Date.toMarch_eq (d : Date) :
    d.toMarch = ⟨if 3 ≤ d.month then d.year else d.year - 1,
      daysBeforeMonth (monthFromMarch d.month) + d.day - 1⟩ := by
  unfold Date.toMarch monthFromMarch
  split <;> rfl

theorem Date.IsValid.dayNumber_eq (h : d.IsValid) :
    d.dayNumber = monthStart d.year d.month + d.day - 1 - epochOffset := by
  have hday := h.day.1
  rw [Date.dayNumber, MarchDate.dayNumber_eq, toMarch_eq, monthStart]
  dsimp only
  omega

theorem monthFromMarch_lt {month : Nat} (h : 1 ≤ month ∧ month ≤ 12) (hfebruary : month ≠ 2) :
    monthFromMarch month < 11 := by
  unfold monthFromMarch
  split <;> omega

theorem month_monthFromMarch {month : Nat} (h : 1 ≤ month ∧ month ≤ 12) :
    (if monthFromMarch month < 10 then monthFromMarch month + 3 else monthFromMarch month - 9) = month := by
  unfold monthFromMarch
  split <;> split <;> omega

/-- March begins after a February of that length. -/
theorem monthStart_march (year : Int) : monthStart year 3 = monthStart year 2 + daysInMonth year 2 := by
  have hfebruary : monthStart year 2 = daysBeforeYear (year - 1) + 337 := rfl
  have hmarch : monthStart year 3 = daysBeforeYear year + 0 := rfl
  have hlength : daysInMonth year 2 = if IsLeap year then 29 else 28 := rfl
  have hyear := daysBeforeYear_succ (year - 1)
  rw [Int.sub_add_cancel] at hyear
  rw [hfebruary, hmarch, hlength, hyear]
  split <;> omega

theorem monthStart_succ (year : Int) {month : Nat} (h : 1 ≤ month ∧ month < 12) :
    monthStart year (month + 1) = monthStart year month + daysInMonth year month := by
  by_cases hfebruary : month = 2
  · subst hfebruary
    exact monthStart_march year
  · have hyear : (if 3 ≤ month + 1 then year else year - 1) = if 3 ≤ month then year else year - 1 := by
      split <;> split <;> omega
    have hmonth : monthFromMarch (month + 1) = monthFromMarch month + 1 := by
      unfold monthFromMarch
      split <;> split <;> omega
    have hrange : 1 ≤ month ∧ month ≤ 12 := ⟨h.1, h.2.le⟩
    have hlength := daysBeforeMonth_succ (monthFromMarch_lt hrange hfebruary) year
    rw [month_monthFromMarch hrange] at hlength
    rw [monthStart, monthStart, hyear, hmonth, hlength]
    omega

theorem monthStart_january (year : Int) :
    monthStart (year + 1) 1 = monthStart year 12 + daysInMonth year 12 := by
  have hdecember : monthStart year 12 = daysBeforeYear year + 275 := rfl
  have hjanuary : monthStart (year + 1) 1 = daysBeforeYear (year + 1 - 1) + 306 := rfl
  have hlength : daysInMonth year 12 = 31 := rfl
  rw [hdecember, hjanuary, hlength, Int.add_sub_cancel]
  omega

theorem Date.IsValid.dayNumber_next (h : d.IsValid) : d.next.dayNumber = d.dayNumber + 1 := by
  rw [h.next.dayNumber_eq, h.dayNumber_eq]
  obtain ⟨hmonth, hday⟩ := h
  unfold Date.next
  by_cases hinside : d.day < daysInMonth d.year d.month
  · rw [if_pos hinside]
    dsimp only
    omega
  rw [if_neg hinside]
  by_cases hyear : d.month < 12
  · have hstart := monthStart_succ d.year ⟨hmonth.1, hyear⟩
    rw [if_pos hyear]
    dsimp only
    omega
  · have hdecember : d.month = 12 := by omega
    have hstart := monthStart_january d.year
    rw [if_neg hyear]
    rw [hdecember] at hinside hday ⊢
    dsimp only
    omega

/-! ### Counting -/

/-- A day lies before the end of its month, counted from March. -/
theorem Date.IsValid.toMarch_spec (h : d.IsValid) :
    (5 * d.toMarch.dayOfYear + 2) / 153 = monthFromMarch d.month ∧ d.toMarch.IsValid := by
  have hday := h.day
  have hmonth := h.month
  rw [toMarch_eq]
  by_cases hfebruary : d.month = 2
  · have hstart : daysBeforeMonth (monthFromMarch 2) = 337 := rfl
    have hplace : monthFromMarch 2 = 11 := rfl
    have hlength : daysInMonth d.year 2 = if IsLeap d.year then 29 else 28 := rfl
    rw [hfebruary, hlength] at hday
    rw [hfebruary, hstart, hplace]
    dsimp only
    by_cases hleap : IsLeap d.year
    · rw [if_pos hleap] at hday
      refine ⟨by omega, ⟨by dsimp only; omega, fun _ => ?_⟩⟩
      rw [if_neg (by decide), Int.sub_add_cancel]
      exact hleap
    · rw [if_neg hleap] at hday
      exact ⟨by omega, ⟨by dsimp only; omega, fun hlast => by dsimp only at hlast; omega⟩⟩
  · have hbelow := monthFromMarch_lt hmonth hfebruary
    have hlength := daysBeforeMonth_succ hbelow d.year
    rw [month_monthFromMarch hmonth] at hlength
    dsimp only
    generalize monthFromMarch d.month = fromMarch at *
    have hstart : daysBeforeMonth fromMarch = (153 * fromMarch + 2) / 5 := rfl
    have hend : daysBeforeMonth (fromMarch + 1) = (153 * (fromMarch + 1) + 2) / 5 := rfl
    exact ⟨by omega, ⟨by dsimp only; omega, fun hlast => by dsimp only at hlast; omega⟩⟩

theorem Date.IsValid.ofMarch_toMarch (h : d.IsValid) : Date.ofMarch d.toMarch = d := by
  have hday := h.day.1
  rw [Date.ofMarch, h.toMarch_spec.1, toMarch_eq]
  obtain ⟨year, month, day⟩ := d
  have hmonth := h.month
  dsimp only at hday hmonth ⊢
  have hback : daysBeforeMonth (monthFromMarch month) + day - 1 -
      daysBeforeMonth (monthFromMarch month) + 1 = day := by
    omega
  rw [hback]
  by_cases hearly : 3 ≤ month
  · have hplace : monthFromMarch month = month - 3 := if_pos hearly
    rw [hplace, if_pos (by omega), if_pos hearly, Nat.sub_add_cancel hearly]
  · have hplace : monthFromMarch month = month + 9 := if_neg hearly
    rw [hplace, if_neg (by omega), if_neg hearly, Int.sub_add_cancel, Nat.add_sub_cancel]

/-- A day lies between the first of January of its year and that of the next one. -/
theorem Date.IsValid.dayNumber_bounds (h : d.IsValid) :
    daysBeforeYear (d.year - 1) + 306 ≤ d.dayNumber + epochOffset ∧
      d.dayNumber + epochOffset < daysBeforeYear d.year + 306 := by
  obtain ⟨hplace, hmarch⟩ := h.toMarch_spec
  have hyear := daysBeforeYear_lt_succ (d.year - 1)
  have hend := hmarch.lt_succ
  have hnumber : d.dayNumber + epochOffset = daysBeforeYear d.toMarch.year + d.toMarch.dayOfYear := by
    rw [Date.dayNumber, MarchDate.dayNumber_eq, Int.sub_add_cancel]
  have hmarchYear : d.toMarch.year = if 3 ≤ d.month then d.year else d.year - 1 := by rw [toMarch_eq]
  have hmonth := h.month
  have hlength := hmarch.dayOfYear
  have hleap := daysBeforeYear_succ (d.year - 1)
  rw [Int.sub_add_cancel] at hyear hleap
  rw [hnumber]
  unfold monthFromMarch at hplace
  by_cases hlate : 3 ≤ d.month
  · rw [if_pos hlate] at hplace hmarchYear
    rw [hmarchYear]
    split at hleap <;> omega
  · rw [if_neg hlate] at hplace hmarchYear
    rw [hmarchYear]
    split at hleap <;> omega

theorem Date.eq_of_dayNumber_eq {d' : Date} (h : d.IsValid) (h' : d'.IsValid)
    (heq : d.dayNumber = d'.dayNumber) : d = d' := by
  have hmarch := MarchDate.eq_of_dayNumber_eq h.toMarch_spec.2 h'.toMarch_spec.2 heq
  rw [← h.ofMarch_toMarch, hmarch, h'.ofMarch_toMarch]

theorem Date.next_ofDayNumber (n : Int) : (Date.ofDayNumber n).next = Date.ofDayNumber (n + 1) := by
  have hvalid := isValid_ofDayNumber n
  refine eq_of_dayNumber_eq hvalid.next (isValid_ofDayNumber (n + 1)) ?_
  rw [hvalid.dayNumber_next, dayNumber_ofDayNumber, dayNumber_ofDayNumber]

theorem weekday_succ (n : Int) : weekday (n + 1) = (weekday n + 1) % 7 := by
  unfold weekday
  omega

theorem weekday_lt (n : Int) : weekday n < 7 := by
  unfold weekday
  omega

theorem counted_ofDayNumber (n : Int) : Counted (.ofDayNumber n) (weekday n) n := by
  induction n with
  | zero => exact .epoch
  | succ n ih =>
    rw [← Date.next_ofDayNumber, weekday_succ]
    exact ih.next
  | pred n ih =>
    have hnext : (Date.ofDayNumber (-n - 1)).next = Date.ofDayNumber (-n) := by
      rw [Date.next_ofDayNumber, Int.sub_add_cancel]
    have hweekday : (weekday (-n - 1) + 1) % 7 = weekday (-n) := by
      rw [← weekday_succ, Int.sub_add_cancel]
    refine .previous (Date.isValid_ofDayNumber _) (weekday_lt _) ?_
    rw [hnext, hweekday, Int.sub_add_cancel]
    exact ih

/-- Counting reaches every day, and finds the date and the weekday that are computed. -/
theorem counted_iff {place : Nat} {n : Int} : Counted d place n ↔ d = .ofDayNumber n ∧ place = weekday n := by
  constructor
  · intro h
    induction h with
    | epoch => exact ⟨by decide, by decide⟩
    | next _ ih =>
      obtain ⟨rfl, rfl⟩ := ih
      exact ⟨Date.next_ofDayNumber _, (weekday_succ _).symm⟩
    | @previous d place n valid hlt _ ih =>
      obtain ⟨hdate, hweekday⟩ := ih
      have hnumber := congrArg Date.dayNumber hdate
      rw [valid.dayNumber_next, Date.dayNumber_ofDayNumber] at hnumber
      refine ⟨Date.eq_of_dayNumber_eq valid (Date.isValid_ofDayNumber n) ?_, ?_⟩
      · rw [Date.dayNumber_ofDayNumber]
        omega
      · have hbound := weekday_lt n
        rw [weekday_succ] at hweekday
        omega
  · rintro ⟨rfl, rfl⟩
    exact counted_ofDayNumber n

end KeyApproval.Calendar
