/-
The calendar, continued without end in both directions, and how a moment is
written.

Days are counted from the first of January 1970, and moments in milliseconds from
the start of that day.
-/

namespace DialogueStore

namespace Calendar

def isLeap (year : Int) : Bool := year % 4 = 0 && (year % 100 ≠ 0 || year % 400 = 0)

def daysIn (year : Int) (month : Nat) : Nat :=
  if month = 2 then (if isLeap year then 29 else 28)
  else if month = 4 ∨ month = 6 ∨ month = 9 ∨ month = 11 then 30
  else 31

/-- A day; months and days are counted from 1. -/
structure Date where
  year : Int
  month : Nat
  day : Nat
  deriving DecidableEq, Repr

/-- The date of a day.  The calendar repeats every 400 years, and within them a year is taken to
start in March, so that the leap day comes last. -/
def Date.ofDays (days : Int) : Date :=
  let fromMarch := days + 719468
  let cycle := fromMarch / 146097
  let day := (fromMarch % 146097).toNat
  let year := (day - day / 1460 + day / 36524 - day / 146096) / 365
  let day := day - (365 * year + year / 4 - year / 100)
  let month := (5 * day + 2) / 153
  let day := day - (153 * month + 2) / 5 + 1
  if month < 10 then ⟨400 * cycle + year, month + 3, day⟩
  else ⟨400 * cycle + year + 1, month - 9, day⟩

/-- A number with so many digits at least. -/
def padded (width n : Nat) : String :=
  String.ofList ((Nat.toDigits 10 n).leftpad width '0')

/-- A date with hyphens.  A year that does not have four digits carries its sign. -/
def Date.toText (d : Date) : String :=
  let sign := if d.year < 0 then "-" else if d.year < 10000 then "" else "+"
  sign ++ padded 4 d.year.natAbs ++ "-" ++ padded 2 d.month ++ "-" ++ padded 2 d.day

/-- A time of the day with colons, and with thousandths if there are any. -/
def clockText (millis : Nat) : String :=
  let seconds := millis / 1000
  padded 2 (seconds / 3600) ++ ":" ++ padded 2 (seconds / 60 % 60) ++ ":" ++
    padded 2 (seconds % 60) ++
    if millis % 1000 = 0 then "" else "." ++ padded 3 (millis % 1000)

def millisPerDay : Nat := 86400000

/-- The years in which moments have a text. -/
def hasText (year : Int) : Bool := -262143 ≤ year && year ≤ 262142

def momentText? (millis : Int) : Option String :=
  let date := Date.ofDays (millis / millisPerDay)
  if hasText date.year then
    some (date.toText ++ "T" ++ clockText (millis % millisPerDay).toNat ++ "+00:00")
  else none

end Calendar

end DialogueStore
