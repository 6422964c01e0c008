/-!
# Instants in the calendar

An instant after 1970 is written as a date and a time of day in universal time, with milliseconds
only where there are some. Years of more than four digits carry a sign. The calendar is the
Gregorian one; counting starts at the first of March of the year zero, so that the leap day is the
last of its year.
-/

set_option autoImplicit false

namespace StorageBroker.Calendar

/-- A day of the calendar. -/
structure Date where
  year : Nat
  month : Nat
  day : Nat
  deriving DecidableEq, Repr

/-- Days from the first of March of the year zero to the first of January 1970. -/
def daysBefore1970 : Nat := 719468

/-- The date of a day, counted from the first of March of the year zero. Four hundred years have
146097 days. -/
def dateOfDay (day : Nat) : Date :=
  let cycle := day / 146097
  let inCycle := day % 146097
  let yearInCycle := (inCycle - inCycle / 1460 + inCycle / 36524 - inCycle / 146096) / 365
  let inYear := inCycle - (365 * yearInCycle + yearInCycle / 4 - yearInCycle / 100)
  let month := (5 * inYear + 2) / 153
  let inMonth := inYear - (153 * month + 2) / 5 + 1
  let year := yearInCycle + cycle * 400
  if month < 10 then ⟨year, month + 3, inMonth⟩ else ⟨year + 1, month - 9, inMonth⟩

/-- A number with zeros in front, up to a number of digits. -/
def padded (width value : Nat) : String :=
  let digits := toString value
  String.ofList (List.replicate (width - digits.length) '0') ++ digits

/-- A year of four digits, or with a sign if it has more. -/
def writeYear (year : Nat) : String :=
  if year ≤ 9999 then padded 4 year else s!"+{year}"

/-- An instant, in milliseconds after 1970. -/
def write (milliseconds : Nat) : String :=
  let seconds := milliseconds / 1000
  let date := dateOfDay (seconds / 86400 + daysBefore1970)
  let inDay := seconds % 86400
  let fraction := milliseconds % 1000
  writeYear date.year ++ "-" ++ padded 2 date.month ++ "-" ++ padded 2 date.day ++ "T" ++
    padded 2 (inDay / 3600) ++ ":" ++ padded 2 (inDay / 60 % 60) ++ ":" ++ padded 2 (inDay % 60) ++
    (if fraction = 0 then "" else "." ++ padded 3 fraction) ++ "Z"

/-- The last millisecond of the calendar, at the end of the year 262142. -/
def lastInstant : Nat := 8210266876799999

/-- A way to read milliseconds after 1970 as instants of some type, where there is one, and to tell
the milliseconds of an instant. -/
structure Reading (ι : Type) where
  instant? : Int64 → Option ι
  milliseconds : ι → Int64

end StorageBroker.Calendar
