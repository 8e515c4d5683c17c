import KeyApproval.Calendar.Instant
import KeyApproval.Text.Number

/-!
# Dates in HTTP headers

The fixed form "Sun, 10 Jul 2022 14:08:09 GMT". A year has four digits at least; one above 9999 or below
zero carries its sign.
-/

namespace KeyApproval.Calendar.HttpDate

def weekdayNames : List String := ["Sun", "Mon", "Tue", "Wed", "Thu", "Fri", "Sat"]

def monthNames : List String :=
  ["Jan", "Feb", "Mar", "Apr", "May", "Jun", "Jul", "Aug", "Sep", "Oct", "Nov", "Dec"]

def yearText (year : Int) : String :=
  let digits := Text.padLeft 4 year.natAbs
  if year < 0 then "-" ++ digits else if 9999 < year then "+" ++ digits else digits

def render (t : Instant) : String :=
  let date := t.date
  weekdayNames.getD (weekday t.dayNumber) "" ++ ", " ++ Text.twoDigits date.day ++ " " ++
    monthNames.getD (date.month - 1) "" ++ " " ++ yearText date.year ++ " " ++
    Text.twoDigits t.hour ++ ":" ++ Text.twoDigits t.minute ++ ":" ++ Text.twoDigits t.second ++
    " GMT"

end KeyApproval.Calendar.HttpDate
