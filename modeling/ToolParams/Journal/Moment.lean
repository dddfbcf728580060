/-!
# Moments

The time of a journal entry is written as a date and a time of day in universal
time.  Years are counted from the first of March, so that the day that is there
only every four years is the last of its year; the calendar repeats itself every
four hundred years.
-/

namespace ToolParams

/-- A point in time: milliseconds since the beginning of 1970. -/
structure Moment where
  milliseconds : Nat
deriving DecidableEq, Repr

namespace Moment

/-- The days from the first of March of the year zero to the beginning of 1970. -/
def daysBefore1970 : Nat := 719468

/-- The days of four hundred years. -/
def daysOfCycle : Nat := 146097

/-- The year, month and day after a number of days since the beginning of 1970. -/
def date (days : Nat) : Nat × Nat × Nat :=
  let shifted := days + daysBefore1970
  let cycle := shifted / daysOfCycle
  let inCycle := shifted % daysOfCycle
  let year := (inCycle - inCycle / 1460 + inCycle / 36524 - inCycle / 146096) / 365
  let inYear := inCycle - (365 * year + year / 4 - year / 100)
  let month := (5 * inYear + 2) / 153
  let day := inYear - (153 * month + 2) / 5 + 1
  let inNextYear := decide (10 ≤ month)
  (cycle * 400 + year + (if inNextYear then 1 else 0),
    if inNextYear then month - 9 else month + 3, day)

/-- A number with zeros in front up to a width. -/
def padded (width number : Nat) : String :=
  let digits := Nat.toDigits 10 number
  String.ofList (List.replicate (width - digits.length) '0' ++ digits)

/-- A moment as it is written. -/
def text (moment : Moment) : String :=
  let seconds := moment.milliseconds / 1000
  let (year, month, day) := date (seconds / 86400)
  let date := s!"{padded 4 year}-{padded 2 month}-{padded 2 day}"
  let time := ":".intercalate
    [padded 2 (seconds / 3600 % 24), padded 2 (seconds / 60 % 60), padded 2 (seconds % 60)]
  s!"{date}T{time}.{padded 3 (moment.milliseconds % 1000)}Z"

example : (Moment.mk 0).text = "1970-01-01T00:00:00.000Z" := by decide +kernel

example : (Moment.mk 1709210096789).text = "2024-02-29T12:34:56.789Z" := by decide +kernel

end Moment

end ToolParams
