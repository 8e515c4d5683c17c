/-!
# The Gregorian calendar

Dates and day numbers, counted from 1970-01-01 and over the whole proleptic calendar. Years are counted
from March, so that the leap day is the last day of its year and a day number splits into centuries,
groups of four years, years and days without a special case.
-/

namespace KeyApproval.Calendar

structure Date where
  year : Int
  month : Nat
  day : Nat
  deriving DecidableEq

/-- A day by its year from March and its place in that year, both counted from zero. -/
structure MarchDate where
  year : Int
  dayOfYear : Nat
  deriving DecidableEq

/-- Days from 0000-03-01 to 1970-01-01. -/
def epochOffset : Int := 719468

def daysPerEra : Nat := 146097

def MarchDate.ofDayNumber (n : Int) : MarchDate :=
  let shifted := n + epochOffset
  let era := shifted / daysPerEra
  let inEra := (shifted % daysPerEra).toNat
  let century := min 3 (inEra / 36524)
  let inCentury := inEra - 36524 * century
  let group := inCentury / 1461
  let inGroup := inCentury % 1461
  let year := min 3 (inGroup / 365)
  ⟨400 * era + (100 * century + 4 * group + year : Nat), inGroup - 365 * year⟩

/-- The day number, each leap day before the year counted once. -/
def MarchDate.dayNumber (d : MarchDate) : Int :=
  365 * d.year + d.year / 4 - d.year / 100 + d.year / 400 + d.dayOfYear - epochOffset

/-- Days from the first of March to the first day of the month, both years starting in March. -/
def daysBeforeMonth (fromMarch : Nat) : Nat := (153 * fromMarch + 2) / 5

def Date.ofMarch (d : MarchDate) : Date :=
  let fromMarch := (5 * d.dayOfYear + 2) / 153
  let day := d.dayOfYear - daysBeforeMonth fromMarch + 1
  if fromMarch < 10 then ⟨d.year, fromMarch + 3, day⟩ else ⟨d.year + 1, fromMarch - 9, day⟩

def Date.toMarch (d : Date) : MarchDate :=
  if 3 ≤ d.month then ⟨d.year, daysBeforeMonth (d.month - 3) + d.day - 1⟩
  else ⟨d.year - 1, daysBeforeMonth (d.month + 9) + d.day - 1⟩

def Date.ofDayNumber (n : Int) : Date := .ofMarch (.ofDayNumber n)

def Date.dayNumber (d : Date) : Int := d.toMarch.dayNumber

/-- The place of the day in its week, from Sunday. -/
def weekday (dayNumber : Int) : Nat := ((dayNumber + 4) % 7).toNat

theorem MarchDate.dayOfYear_ofDayNumber_le (n : Int) :
    (MarchDate.ofDayNumber n).dayOfYear ≤ 365 := by
  simp only [ofDayNumber, epochOffset, daysPerEra]
  omega

/-- A year that is split into its era, century, group of four and place counts its leap days so. -/
theorem leapDays_split (era : Int) {century group year : Nat} (hc : century ≤ 3) (hg : group ≤ 24)
    (hy : year ≤ 3) :
    let y : Int := 400 * era + (100 * century + 4 * group + year : Nat)
    y / 4 = 100 * era + 25 * century + group ∧ y / 100 = 4 * era + century ∧ y / 400 = era := by
  intro y
  refine ⟨?_, ?_, ?_⟩ <;> omega

theorem MarchDate.dayNumber_ofDayNumber (n : Int) : (MarchDate.ofDayNumber n).dayNumber = n := by
  simp only [ofDayNumber, dayNumber, epochOffset, daysPerEra]
  generalize hera : (n + 719468) / (146097 : Nat) = era
  generalize hrest : ((n + 719468) % (146097 : Nat)).toNat = rest
  have hlt : rest < 146097 := by omega
  have hn : n + 719468 = 146097 * era + rest := by omega
  generalize hcentury : min 3 (rest / 36524) = century
  have hc : century ≤ 3 := by omega
  have hinCentury : rest - 36524 * century ≤ 36524 := by omega
  generalize hin : rest - 36524 * century = inCentury at *
  generalize hgroup : inCentury / 1461 = group
  have hg : group ≤ 24 := by omega
  generalize hyear : min 3 (inCentury % 1461 / 365) = year
  have hy : year ≤ 3 := by omega
  obtain ⟨h4, h100, h400⟩ := leapDays_split era hc hg hy
  rw [h4, h100, h400]
  omega

end KeyApproval.Calendar
