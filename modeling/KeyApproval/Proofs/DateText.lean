import KeyApproval.Calendar.HttpDate
import KeyApproval.Proofs.DayCount
import KeyApproval.Text.Split

/-!
# Dates read back

The text of a date is six fields between blanks. Reading them one by one gives the second that was written,
however far before or after 1970 it lies, so the text tells seconds apart and nothing else.
-/

namespace KeyApproval

namespace Text

/-! ### Digits -/

/-- A run of digits of a fixed width. -/
structure IsDigits (width : Nat) (s : List Char) : Prop where
  length : s.length = width
  digits : ∀ c ∈ s, c.isDigit = true

theorem isDigit_of_mem_padLeft {width n : Nat} {c : Char} (h : c ∈ (padLeft width n).toList) :
    c.isDigit = true := by
  rw [toList_padLeft, List.mem_append] at h
  rcases h with hzero | hdigit
  · rw [List.eq_of_mem_replicate hzero]
    decide
  · exact Nat.isDigit_of_mem_toDigits (by decide) (by decide) hdigit

theorem isDigits_padLeft {width n : Nat} (hwidth : 0 < width) (h : n < 10 ^ width) :
    IsDigits width (padLeft width n).toList := by
  refine ⟨?_, fun c hc => isDigit_of_mem_padLeft hc⟩
  have hlength := (Nat.length_toDigits_le_iff (show 1 < 10 by decide) hwidth).mpr h
  rw [toList_padLeft, List.length_append, List.length_replicate]
  omega

theorem isDigits_twoDigits {n : Nat} (h : n < 100) : IsDigits 2 (twoDigits n).toList := by
  rw [twoDigits_eq_padLeft]
  exact isDigits_padLeft (by decide) h

theorem readDigits?_twoDigits (n : Nat) : readDigits? (twoDigits n).toList = some n := by
  rw [twoDigits_eq_padLeft, readDigits?_padLeft]

end Text

namespace Calendar.HttpDate

open Text

/-! ### Reading -/

/-- What a text says of a second: its day, with the place of the day in the week, and the time of day. -/
structure Stamp where
  weekday : Nat
  date : Date
  hour : Nat
  minute : Nat
  second : Nat
  deriving DecidableEq

/-- The second that is said. -/
def Stamp.seconds (s : Stamp) : Int :=
  86400 * s.date.dayNumber + 3600 * s.hour + 60 * s.minute + s.second

def readName? (names : List String) (s : List Char) : Option Nat := names.findIdx? (·.toList == s)

def readWeekday? (s : List Char) : Option Nat :=
  readName? ["Sun,", "Mon,", "Tue,", "Wed,", "Thu,", "Fri,", "Sat,"] s

def readMonth? (s : List Char) : Option Nat :=
  readName? ["Jan", "Feb", "Mar", "Apr", "May", "Jun", "Jul", "Aug", "Sep", "Oct", "Nov", "Dec"] s

def readYear? : List Char → Option Int
  | '-' :: digits => (readDigits? digits).map fun n : Nat => (-n : Int)
  | '+' :: digits => (readDigits? digits).map fun n : Nat => (n : Int)
  | digits => (readDigits? digits).map fun n : Nat => (n : Int)

def readClock? (s : List Char) : Option (Nat × Nat × Nat) :=
  match split ':' s with
  | [hour, minute, second] => do
    return (← readDigits? hour, ← readDigits? minute, ← readDigits? second)
  | _ => none

def read? (text : String) : Option Stamp :=
  match split ' ' text.toList with
  | [weekday, day, month, year, clock, zone] => do
    let weekday ← readWeekday? weekday
    let month ← readMonth? month
    let date := ⟨← readYear? year, month + 1, ← readDigits? day⟩
    let (hour, minute, second) ← readClock? clock
    if zone = "GMT".toList then return ⟨weekday, date, hour, minute, second⟩ else none
  | _ => none

/-! ### Fields -/

def weekdayText (t : Instant) : String := weekdayNames.getD (weekday t.dayNumber) "" ++ ","

def monthText (t : Instant) : String := monthNames.getD (t.date.month - 1) ""

def clockText (t : Instant) : List Char :=
  join ':' [(twoDigits t.hour).toList, (twoDigits t.minute).toList, (twoDigits t.second).toList]

def fields (t : Instant) : List (List Char) :=
  [(weekdayText t).toList, (twoDigits t.date.day).toList, (monthText t).toList, (yearText t.date.year).toList,
    clockText t, "GMT".toList]

theorem toList_render (t : Instant) : (render t).toList = join ' ' (fields t) := by
  have hcomma : ", ".toList = ',' :: ' ' :: [] := rfl
  simp [render, fields, weekdayText, monthText, clockText, join, hcomma]

theorem month_lt (t : Instant) : t.date.month - 1 < 12 := by
  have hmonth := (Date.isValid_ofDayNumber t.dayNumber).month
  rw [Instant.date]
  omega

/-- A name in its list is the entry at its place. -/
theorem getD_mem {names : List String} {i : Nat} (h : i < names.length) : names.getD i "" ∈ names := by
  rw [List.getD_eq_getElem?_getD, List.getElem?_eq_getElem h, Option.getD_some]
  exact List.getElem_mem h

theorem weekdayName_mem (t : Instant) : weekdayNames.getD (weekday t.dayNumber) "" ∈ weekdayNames :=
  getD_mem (weekday_lt t.dayNumber)

theorem monthText_mem (t : Instant) : monthText t ∈ monthNames := getD_mem (month_lt t)

theorem readWeekday?_weekdayText (t : Instant) :
    readWeekday? (weekdayText t).toList = some (weekday t.dayNumber) := by
  have hall : ∀ i < 7, readWeekday? (weekdayNames.getD i "" ++ ",").toList = some i := by decide
  exact hall _ (weekday_lt t.dayNumber)

theorem readMonth?_monthText (t : Instant) : readMonth? (monthText t).toList = some (t.date.month - 1) := by
  have hall : ∀ i < 12, readMonth? (monthNames.getD i "").toList = some i := by decide
  exact hall _ (month_lt t)

theorem readYear?_yearText (year : Int) : readYear? (yearText year).toList = some year := by
  have hread := readDigits?_padLeft 4 year.natAbs
  unfold yearText
  dsimp only
  by_cases hnegative : year < 0
  · have hvalue : -(year.natAbs : Int) = year := by omega
    have hsign : "-".toList = ['-'] := rfl
    rw [if_pos hnegative, String.toList_append, hsign, List.singleton_append, readYear?, hread,
      Option.map_some, hvalue]
  rw [if_neg hnegative]
  have hvalue : (year.natAbs : Int) = year := by omega
  by_cases hlarge : 9999 < year
  · have hsign : "+".toList = ['+'] := rfl
    rw [if_pos hlarge, String.toList_append, hsign, List.singleton_append, readYear?, hread,
      Option.map_some, hvalue]
  · rw [if_neg hlarge]
    unfold readYear?
    split
    next digits heq =>
      have hminus : '-' ∈ (padLeft 4 year.natAbs).toList := heq ▸ List.mem_cons_self
      exact absurd (isDigit_of_mem_padLeft hminus) (by decide)
    next digits heq =>
      have hplus : '+' ∈ (padLeft 4 year.natAbs).toList := heq ▸ List.mem_cons_self
      exact absurd (isDigit_of_mem_padLeft hplus) (by decide)
    next => rw [hread, Option.map_some, hvalue]

theorem isDigit_of_mem_twoDigits {n : Nat} {c : Char} (h : c ∈ (twoDigits n).toList) : c.isDigit = true := by
  rw [twoDigits_eq_padLeft] at h
  exact isDigit_of_mem_padLeft h

theorem readClock?_clockText (t : Instant) : readClock? (clockText t) = some (t.hour, t.minute, t.second) := by
  have hfree (n : Nat) : ':' ∉ (twoDigits n).toList := fun hmem =>
    absurd (isDigit_of_mem_twoDigits hmem) (by decide)
  have hsplit : split ':' (clockText t) =
      [(twoDigits t.hour).toList, (twoDigits t.minute).toList, (twoDigits t.second).toList] := by
    refine split_join (by simp) ?_
    simp [hfree]
  rw [readClock?, hsplit]
  simp [readDigits?_twoDigits]

/-! ### Characters -/

/-- An ASCII character that is no control and no blank. -/
def isVisible (c : Char) : Bool := 0x20 < c.toNat && c.toNat < 0x7F

theorem isVisible_of_isDigit {c : Char} (h : c.isDigit = true) : isVisible c = true := by
  have hrange : 48 ≤ c.toNat ∧ c.toNat ≤ 57 := Char.isDigit_iff_toNat.mp h
  simp only [isVisible, Bool.and_eq_true, decide_eq_true_eq]
  omega

theorem isVisible_of_mem_yearText {year : Int} {c : Char} (h : c ∈ (yearText year).toList) :
    isVisible c = true := by
  have hdigits (hc : c ∈ (padLeft 4 year.natAbs).toList) : isVisible c = true :=
    isVisible_of_isDigit (isDigit_of_mem_padLeft hc)
  have hsigned (sign : String) (hsign : sign.toList.all isVisible = true)
      (hc : c ∈ (sign ++ padLeft 4 year.natAbs).toList) : isVisible c = true := by
    rw [String.toList_append, List.mem_append] at hc
    exact hc.elim (List.all_eq_true.mp hsign c) hdigits
  unfold yearText at h
  dsimp only at h
  split at h
  · exact hsigned "-" (by decide) h
  · split at h
    · exact hsigned "+" (by decide) h
    · exact hdigits h

theorem isVisible_of_mem_clockText {t : Instant} {c : Char} (h : c ∈ clockText t) : isVisible c = true := by
  rcases mem_join h with rfl | ⟨part, hpart, hc⟩
  · decide
  · simp only [List.mem_cons, List.not_mem_nil, or_false] at hpart
    rcases hpart with rfl | rfl | rfl <;> exact isVisible_of_isDigit (isDigit_of_mem_twoDigits hc)

theorem isVisible_of_mem_fields {t : Instant} {field : List Char} (h : field ∈ fields t) :
    ∀ c ∈ field, isVisible c = true := by
  have hweekdays : ∀ name ∈ weekdayNames, (name ++ ",").toList.all isVisible = true := by decide
  have hmonths : ∀ name ∈ monthNames, name.toList.all isVisible = true := by decide
  have hzone : "GMT".toList.all isVisible = true := by decide
  intro c hc
  simp only [fields, List.mem_cons, List.not_mem_nil, or_false] at h
  rcases h with rfl | rfl | rfl | rfl | rfl | rfl
  · exact List.all_eq_true.mp (hweekdays _ (weekdayName_mem t)) c hc
  · exact isVisible_of_isDigit (isDigit_of_mem_twoDigits hc)
  · exact List.all_eq_true.mp (hmonths _ (monthText_mem t)) c hc
  · exact isVisible_of_mem_yearText hc
  · exact isVisible_of_mem_clockText hc
  · exact List.all_eq_true.mp hzone c hc

/-- The text is printable ASCII. -/
theorem bounds_of_mem_render {t : Instant} {c : Char} (h : c ∈ (render t).toList) :
    0x20 ≤ c.toNat ∧ c.toNat < 0x7F := by
  rw [toList_render] at h
  rcases mem_join h with rfl | ⟨field, hfield, hc⟩
  · decide
  · have hvisible := isVisible_of_mem_fields hfield c hc
    simp only [isVisible, Bool.and_eq_true, decide_eq_true_eq] at hvisible
    omega

/-! ### Reading back -/

theorem split_render (t : Instant) : split ' ' (render t).toList = fields t := by
  rw [toList_render]
  refine split_join (List.cons_ne_nil _ _) fun field hfield hblank => ?_
  have hvisible := isVisible_of_mem_fields hfield ' ' hblank
  contradiction

/-- What is read back. -/
def stamp (t : Instant) : Stamp := ⟨weekday t.dayNumber, t.date, t.hour, t.minute, t.second⟩

theorem read?_eq_stamp (t : Instant) : read? (render t) = some (stamp t) := by
  have hmonth : t.date.month - 1 + 1 = t.date.month := by
    have := (Date.isValid_ofDayNumber t.dayNumber).month
    rw [Instant.date]
    omega
  rw [read?, split_render, fields]
  simp only [readWeekday?_weekdayText, readMonth?_monthText, readYear?_yearText, readDigits?_twoDigits,
    readClock?_clockText, hmonth, Option.bind_eq_bind, Option.bind_some, if_true, Option.pure_def]
  rfl

/-- A time of day of 24 hours. -/
structure Stamp.IsTimed (s : Stamp) : Prop where
  hour : s.hour < 24
  minute : s.minute < 60
  second : s.second < 60

variable {t : Instant}

theorem second_eq (h : t.nanos < 1000000000) : t.second = t.secondOfDay % 60 := by
  rw [Instant.second, Nat.div_eq_of_lt h, Nat.add_zero]

theorem secondOfDay_lt (t : Instant) : t.secondOfDay < 86400 := by
  unfold Instant.secondOfDay
  omega

theorem isTimed_stamp (h : t.nanos < 1000000000) : (stamp t).IsTimed := by
  have hlt := secondOfDay_lt t
  have hsecond : (stamp t).second = t.secondOfDay % 60 := second_eq h
  have hhour : (stamp t).hour = t.secondOfDay / 3600 := rfl
  have hminute : (stamp t).minute = t.secondOfDay / 60 % 60 := rfl
  exact ⟨by omega, by omega, by omega⟩

theorem seconds_stamp (h : t.nanos < 1000000000) : (stamp t).seconds = t.seconds := by
  have hday : t.date.dayNumber = t.dayNumber := Date.dayNumber_ofDayNumber t.dayNumber
  have hclock : 3600 * (t.secondOfDay / 3600) + 60 * (t.secondOfDay / 60 % 60) + t.secondOfDay % 60 =
      t.secondOfDay := by omega
  calc (stamp t).seconds
      = 86400 * t.date.dayNumber + 3600 * t.hour + 60 * t.minute + t.second := rfl
    _ = 86400 * t.dayNumber + t.secondOfDay := by
        rw [hday, second_eq h, Instant.hour, Instant.minute]
        omega
    _ = t.seconds := t.seconds_eq.symm

/-- The years that an instant can lie in. -/
theorem year_bounds (t : Instant) : -262143 ≤ t.date.year ∧ t.date.year ≤ 262142 := by
  obtain ⟨hfirst, hlast, -⟩ := t.inRange
  obtain ⟨hbegin, hend⟩ := (Date.isValid_ofDayNumber t.dayNumber).dayNumber_bounds
  have hday := t.seconds_eq
  have hclock := secondOfDay_lt t
  have hbefore : daysBeforeYear (-262144) = -95746130 := by decide
  have hafter : daysBeforeYear 262142 = 95745399 := by decide
  rw [Date.dayNumber_ofDayNumber] at hbegin hend
  unfold firstSecond at hfirst
  unfold lastSecond at hlast
  unfold epochOffset at hbegin hend
  constructor
  · by_contra hlow
    have hmono : daysBeforeYear t.date.year ≤ daysBeforeYear (-262144) :=
      daysBeforeYear_le (by omega)
    rw [Instant.date] at hmono
    omega
  · by_contra hhigh
    have hmono : daysBeforeYear 262142 ≤ daysBeforeYear (t.date.year - 1) :=
      daysBeforeYear_le (by omega)
    rw [Instant.date] at hmono
    omega

/-! ### The fixed form -/

/-- The form "Www, DD Mon YYYY HH:MM:SS GMT". -/
inductive IsFixdate : List Char → Prop where
  | mk {weekday month : String} {day year hour minute second : List Char} (hweekday : weekday ∈ weekdayNames)
      (hday : IsDigits 2 day) (hmonth : month ∈ monthNames) (hyear : IsDigits 4 year)
      (hhour : IsDigits 2 hour) (hminute : IsDigits 2 minute) (hsecond : IsDigits 2 second) :
      IsFixdate (weekday.toList ++ ", ".toList ++ day ++ ' ' :: month.toList ++ ' ' :: year ++
        ' ' :: hour ++ ':' :: minute ++ ':' :: second ++ " GMT".toList)

theorem IsFixdate.length {s : List Char} (h : IsFixdate s) : s.length = 29 := by
  have hweekdays : ∀ name ∈ weekdayNames, name.toList.length = 3 := by decide
  have hmonths : ∀ name ∈ monthNames, name.toList.length = 3 := by decide
  cases h with
  | mk hweekday hday hmonth hyear hhour hminute hsecond =>
    simp [hweekdays _ hweekday, hmonths _ hmonth, hday.length, hyear.length, hhour.length, hminute.length,
      hsecond.length]

/-- From the year 0 to the year 9999 no year has a sign. -/
theorem isFixdate_render (h : t.nanos < 1000000000) (hfirst : 0 ≤ t.date.year) (hlast : t.date.year ≤ 9999) :
    IsFixdate (render t).toList := by
  have hyear : yearText t.date.year = padLeft 4 t.date.year.natAbs := by
    unfold yearText
    dsimp only
    rw [if_neg (by omega), if_neg (by omega)]
  have hday : t.date.day < 100 := by
    have hvalid := (Date.isValid_ofDayNumber t.dayNumber).day
    have hlength := length_month t.date.year t.date.month
    rw [Instant.date] at hlength ⊢
    omega
  have htimed := isTimed_stamp h
  have hhour : t.hour < 24 := htimed.hour
  have hminute : t.minute < 60 := htimed.minute
  have hsecond : t.second < 60 := htimed.second
  have htext : (render t).toList = (weekdayNames.getD (weekday t.dayNumber) "").toList ++ ", ".toList ++
      (twoDigits t.date.day).toList ++ ' ' :: (monthText t).toList ++
      ' ' :: (padLeft 4 t.date.year.natAbs).toList ++ ' ' :: (twoDigits t.hour).toList ++
      ':' :: (twoDigits t.minute).toList ++ ':' :: (twoDigits t.second).toList ++ " GMT".toList := by
    simp [render, hyear, monthText]
  rw [htext]
  exact .mk (weekdayName_mem t) (isDigits_twoDigits hday) (monthText_mem t)
    (isDigits_padLeft (by decide) (by omega)) (isDigits_twoDigits (by omega))
    (isDigits_twoDigits (by omega)) (isDigits_twoDigits (by omega))

theorem render_eq_of_seconds_eq {t' : Instant} (h : t.nanos < 1000000000) (h' : t'.nanos < 1000000000)
    (heq : t.seconds = t'.seconds) : render t = render t' := by
  have hday : t.dayNumber = t'.dayNumber := by rw [Instant.dayNumber, Instant.dayNumber, heq]
  have hclock : t.secondOfDay = t'.secondOfDay := by rw [Instant.secondOfDay, Instant.secondOfDay, heq]
  unfold render
  dsimp only
  rw [second_eq h, second_eq h', Instant.date, Instant.date, Instant.hour, Instant.hour, Instant.minute,
    Instant.minute, hday, hclock]

/-- The second that was written is read back from the text of an instant, with its day as the calendar counts
it. So the text tells whole seconds apart and nothing else; it is printable ASCII, and has the fixed form in
all years of four digits. -/
theorem read?_render (t : Instant) (h : t.nanos < 1000000000) :
    (∃ s, read? (render t) = some s ∧ s.seconds = t.seconds ∧ s.IsTimed ∧
      Counted s.date s.weekday (t.seconds / 86400) ∧ -262143 ≤ s.date.year ∧ s.date.year ≤ 262142 ∧
      (0 ≤ s.date.year → s.date.year ≤ 9999 → IsFixdate (render t).toList ∧ (render t).length = 29)) ∧
    (∀ t' : Instant, t'.nanos < 1000000000 → (render t' = render t ↔ t'.seconds = t.seconds)) ∧
    ∀ c ∈ (render t).toList, 0x20 ≤ c.toNat ∧ c.toNat < 0x7F := by
  refine ⟨⟨stamp t, read?_eq_stamp t, seconds_stamp h, isTimed_stamp h, counted_iff.mpr ⟨rfl, rfl⟩,
    (year_bounds t).1, (year_bounds t).2, fun hfirst hlast => ?_⟩, fun t' h' => ⟨fun heq => ?_, fun heq => ?_⟩,
    fun c hc => bounds_of_mem_render hc⟩
  · have hform := isFixdate_render h hfirst hlast
    exact ⟨hform, by rw [← String.length_toList, hform.length]⟩
  · have hread := read?_eq_stamp t'
    rw [heq, read?_eq_stamp t] at hread
    rw [← seconds_stamp h, ← seconds_stamp h', Option.some.inj hread]
  · exact render_eq_of_seconds_eq h' h heq

/-- The first instant lies long before 1970, and its year has six digits and a sign. -/
theorem read?_render_first :
    let t : Instant := ⟨firstSecond, 0, by decide⟩
    t.nanos < 1000000000 ∧ render t = "Thu, 01 Jan -262143 00:00:00 GMT" ∧
      (∃ s, read? (render t) = some s ∧ s.seconds = firstSecond) ∧
      ∀ t' : Instant, t'.nanos < 1000000000 → render t' = render t → t'.seconds = firstSecond := by
  intro t
  obtain ⟨⟨s, hread, hseconds, -⟩, htold, -⟩ := read?_render t (by decide)
  exact ⟨by decide, by decide +kernel, ⟨s, hread, hseconds⟩, fun t' h' heq => (htold t' h').mp heq⟩

end Calendar.HttpDate

end KeyApproval
