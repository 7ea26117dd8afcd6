import RecipeBook.Calendar
import RecipeBook.Number.Whole
import RecipeBook.Text.Line

/-!
# Timestamps

A header tells a moment as a day of the week, a day of the calendar and a time of the day. There is one
form in which it is written (`Sun, 06 Nov 1994 08:49:37 GMT`), and two older ones are read too: one with
the whole name of the weekday and two digits for the year, and one with the year at the end. Moments
are counted in seconds from the beginning of the year 1970.
-/

namespace RecipeBook.Web

structure Timestamp where
  /-- Counted from Monday, which is zero. -/
  weekday : Nat
  day : Day
  hour : Nat
  minute : Nat
  second : Nat
  deriving DecidableEq, Repr

namespace Timestamp

def weekdays : List String :=
  ["Monday", "Tuesday", "Wednesday", "Thursday", "Friday", "Saturday", "Sunday"]

/-- The first three letters of each weekday. -/
def shortWeekdays : List String := ["Mon", "Tue", "Wed", "Thu", "Fri", "Sat", "Sun"]

def months : List String :=
  ["Jan", "Feb", "Mar", "Apr", "May", "Jun", "Jul", "Aug", "Sep", "Oct", "Nov", "Dec"]

/-- The year in which seconds begin to be counted. -/
def firstYear : Nat := 1970

/-- There is such a moment, and it falls on that weekday. -/
def isReal (t : Timestamp) : Bool :=
  t.day.isReal && firstYear ≤ t.day.year && t.weekday == t.day.weekday &&
    t.hour < 24 && t.minute < 60 && t.second < 60

def seconds (t : Timestamp) : Nat :=
  let days := t.day.number - Day.firstOf firstYear
  ((days * 24 + t.hour) * 60 + t.minute) * 60 + t.second

def ofSeconds (n : Nat) : Timestamp :=
  let day := Day.after firstYear (n / 86400)
  ⟨day.weekday, day, n / 3600 % 24, n / 60 % 60, n % 60⟩

/-! ## Written timestamps -/

/-- Reads from the front of a text. -/
abbrev Reader := StateT (List Char) Option

namespace Reader

/-- The text comes next. -/
def text (expected : String) : Reader Unit := do set (← Text.dropStart? expected.toList (← get))

/-- One of the names comes next; tells which. -/
def name (names : List String) : Reader Nat := do
  let s ← get
  let n ← names.findIdx? fun name => name.toList.isPrefixOf s
  set (s.drop (names.getD n "").length)
  return n

/-- As many digits come next. -/
def digits (count : Nat) : Reader Nat := do
  let s ← get
  if s.length < count then failure
  set (s.drop count)
  (Number.readDigits 10 (Number.maxOf 64) 0 (s.take count)).toOption

/-- Any character comes next. -/
def skip : Reader Unit := do
  match ← get with
  | _ :: rest => set rest
  | [] => failure

/-- Hour, minute and second. -/
def time : Reader (Nat × Nat × Nat) := do
  let hour ← digits 2
  text ":"
  let minute ← digits 2
  text ":"
  return (hour, minute, ← digits 2)

/-- `Sun, 06 Nov 1994 08:49:37 GMT` -/
def usual : Reader Timestamp := do
  let weekday ← name shortWeekdays
  text ", "
  let dayOfMonth ← digits 2
  text " "
  let month ← name months
  text " "
  let year ← digits 4
  text " "
  let (hour, minute, second) ← time
  text " GMT"
  return ⟨weekday, ⟨year, month + 1, dayOfMonth⟩, hour, minute, second⟩

/-- `Sunday, 06-Nov-94 08:49:37 GMT`; years before 70 are in the century of 2000. -/
def long : Reader Timestamp := do
  let weekday ← name weekdays
  text ", "
  let dayOfMonth ← digits 2
  text "-"
  let month ← name months
  text "-"
  let year ← digits 2
  skip
  let (hour, minute, second) ← time
  text " GMT"
  let year := if year < 70 then 2000 + year else 1900 + year
  return ⟨weekday, ⟨year, month + 1, dayOfMonth⟩, hour, minute, second⟩

/-- `Sun Nov  6 08:49:37 1994` -/
def plain : Reader Timestamp := do
  let weekday ← name shortWeekdays
  text " "
  let month ← name months
  skip
  let dayOfMonth ← (do text " "; digits 1) <|> digits 2
  text " "
  let (hour, minute, second) ← time
  text " "
  let year ← digits 4
  return ⟨weekday, ⟨year, month + 1, dayOfMonth⟩, hour, minute, second⟩

/-- What a reader gives for a text that it reads to the end. -/
def whole? (reader : Reader Timestamp) (s : List Char) : Option Timestamp :=
  match reader.run s with
  | some (t, []) => some t
  | _ => none

end Reader

def read? (s : String) : Option Timestamp :=
  if s.toList.all (·.toNat < 128) then
    let s := Text.trim s.toList
    ((Reader.usual.whole? s).or ((Reader.long.whole? s).or (Reader.plain.whole? s))).filter isReal
  else none

/-- A number with zeros in front, so that it has as many digits. -/
def padded (width n : Nat) : String :=
  let digits := Nat.toDigits 10 n
  .ofList (List.replicate (width - digits.length) '0' ++ digits)

def render (t : Timestamp) : String :=
  shortWeekdays.getD t.weekday "" ++ ", " ++ padded 2 t.day.dayOfMonth ++ " " ++
    months.getD (t.day.month - 1) "" ++ " " ++ padded 4 t.day.year ++ " " ++ padded 2 t.hour ++ ":" ++
    padded 2 t.minute ++ ":" ++ padded 2 t.second ++ " GMT"

end Timestamp
end RecipeBook.Web
