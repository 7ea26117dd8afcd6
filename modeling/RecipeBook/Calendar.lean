/-!
# The calendar

A day has a number, which counts from the first day of the year 1; that day is a Monday. `Day.after`
goes the other way and finds the day that is so many days behind the beginning of a year.
-/

namespace RecipeBook

/-- Months and their days are counted from one. -/
structure Day where
  year : Nat
  month : Nat
  dayOfMonth : Nat
  deriving DecidableEq, Repr

namespace Day

def isLeap (year : Nat) : Bool := year % 4 == 0 && (year % 100 != 0 || year % 400 == 0)

def yearLength (year : Nat) : Nat := if isLeap year then 366 else 365

def monthLengths (year : Nat) : List Nat :=
  [31, if isLeap year then 29 else 28, 31, 30, 31, 30, 31, 31, 30, 31, 30, 31]

/-- The number of the first day of a year. -/
def firstOf (year : Nat) : Nat :=
  let past := year - 1
  365 * past + past / 4 - past / 100 + past / 400

/-- The calendar has such a day. -/
def isReal (d : Day) : Bool :=
  1 ≤ d.year && 1 ≤ d.month && 1 ≤ d.dayOfMonth &&
    (monthLengths d.year)[d.month - 1]?.any (d.dayOfMonth ≤ ·)

def number (d : Day) : Nat :=
  firstOf d.year + ((monthLengths d.year).take (d.month - 1)).foldl (· + ·) 0 + (d.dayOfMonth - 1)

/-- The day of the week, counted from Monday, which is zero. -/
def weekday (d : Day) : Nat := d.number % 7

/-- The day that is `days` days behind the beginning of a month, whose length and the lengths of those
that follow are given. -/
def inYear (year month days : Nat) : List Nat → Day
  | length :: next :: rest =>
    if days < length then ⟨year, month, days + 1⟩
    else inYear year (month + 1) (days - length) (next :: rest)
  | _ => ⟨year, month, days + 1⟩

/-- The day that is `days` days behind the first day of a year. -/
def after (year days : Nat) : Day :=
  if days < yearLength year then inYear year 1 days (monthLengths year)
  else after (year + 1) (days - yearLength year)
termination_by days
decreasing_by
  have : 0 < yearLength year := by unfold yearLength; split <;> omega
  omega

end Day
end RecipeBook
