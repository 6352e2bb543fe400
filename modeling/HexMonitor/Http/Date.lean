import HexMonitor.Text.Numeral
import HexMonitor.Text.Split

namespace HexMonitor.Http

structure Date where
  year : Nat := 1970
  /-- January is 1. -/
  month : Nat := 1
  day : Nat := 1
  hour : Nat := 0
  minute : Nat := 0
  second : Nat := 0
  deriving DecidableEq, Repr

namespace Date

def isLeapYear (year : Nat) : Bool := year % 4 = 0 ∧ (year % 100 ≠ 0 ∨ year % 400 = 0)

def monthLengths (year : Nat) : List Nat :=
  [31, if isLeapYear year then 29 else 28, 31, 30, 31, 30, 31, 31, 30, 31, 30, 31]

def daysBefore (year : Nat) : Nat :=
  365 * (year - 1) + (year - 1) / 4 - (year - 1) / 100 + (year - 1) / 400

def days (date : Date) : Nat :=
  ((monthLengths date.year).take (date.month - 1)).foldl Nat.add (daysBefore date.year)
    + (date.day - 1)

/-- The weekday, where Monday is 0. The first day of the year 1 is a Monday. -/
def weekday (date : Date) : Nat := date.days % 7

def seconds (date : Date) : Nat :=
  ((24 * date.days + date.hour) * 60 + date.minute) * 60 + date.second

/-- Whether there is such a date, in the years of four digits from 1970 on. -/
def isValid (date : Date) : Bool :=
  1970 ≤ date.year && date.year ≤ 9999
    && 1 ≤ date.month && date.month ≤ 12
    && 1 ≤ date.day && date.day ≤ (monthLengths date.year).getD (date.month - 1) 0
    && date.hour < 24 && date.minute < 60 && date.second < 60

def weekdayNames : List String :=
  ["Monday", "Tuesday", "Wednesday", "Thursday", "Friday", "Saturday", "Sunday"]

def shortWeekdayNames : List String := ["Mon", "Tue", "Wed", "Thu", "Fri", "Sat", "Sun"]

def shortMonthNames : List String :=
  ["Jan", "Feb", "Mar", "Apr", "May", "Jun", "Jul", "Aug", "Sep", "Oct", "Nov", "Dec"]

def skipText? (expected : String) (text : List Char) : Option (List Char) :=
  if expected.toList.isPrefixOf text then some (text.drop expected.length) else none

def readName? (names : List String) (text : List Char) : Option (Nat × List Char) :=
  names.zipIdx.findSome? fun (name, i) => (skipText? name text).map (i, ·)

def readDigits? (count : Nat) (text : List Char) : Option (Nat × List Char) :=
  let digits := text.take count
  if digits.length = count ∧ digits.all (Text.isDigitIn 10) then
    some (Text.valueOf 10 digits, text.drop count)
  else none

/-- Takes two digits, of which the first may be written as a space. -/
def readPadded? (text : List Char) : Option (Nat × List Char) :=
  match text with
  | ' ' :: rest => readDigits? 1 rest
  | _ => readDigits? 2 text

def readTime? (date : Date) (text : List Char) : Option (Date × List Char) := do
  let (hour, text) ← readDigits? 2 text
  let (minute, text) ← readDigits? 2 (← skipText? ":" text)
  let (second, text) ← readDigits? 2 (← skipText? ":" text)
  return ({ date with hour, minute, second }, text)

/-- Reads the form `Sun, 06 Nov 1994 08:49:37 GMT`; the weekday, and the date. -/
def readFixed? (text : List Char) : Option (Nat × Date) := do
  let (weekday, text) ← readName? shortWeekdayNames text
  let (day, text) ← readDigits? 2 (← skipText? ", " text)
  let (month, text) ← readName? shortMonthNames (← skipText? " " text)
  let (year, text) ← readDigits? 4 (← skipText? " " text)
  let (date, text) ← readTime? { year, month := month + 1, day } (← skipText? " " text)
  if text = " GMT".toList then some (weekday, date) else none

/-- Reads the form `Sunday, 06-Nov-94 08:49:37 GMT`; the weekday, and the date. Years below 70 are
those of the century that begins with 2000, and any character may stand behind the year. -/
def readShortYear? (text : List Char) : Option (Nat × Date) := do
  let (weekday, text) ← readName? weekdayNames text
  let (day, text) ← readDigits? 2 (← skipText? ", " text)
  let (month, text) ← readName? shortMonthNames (← skipText? "-" text)
  let (year, text) ← readDigits? 2 (← skipText? "-" text)
  let year := if year < 70 then 2000 + year else 1900 + year
  let (date, text) ← readTime? { year, month := month + 1, day } (text.drop 1)
  if text = " GMT".toList then some (weekday, date) else none

/-- Reads the form `Sun Nov  6 08:49:37 1994`; the weekday, and the date. -/
def readYearLast? (text : List Char) : Option (Nat × Date) := do
  let (weekday, text) ← readName? shortWeekdayNames text
  let (month, text) ← readName? shortMonthNames (← skipText? " " text)
  let (day, text) ← readPadded? (← skipText? " " text)
  let (date, text) ← readTime? { month := month + 1, day } (← skipText? " " text)
  let (year, text) ← readDigits? 4 (← skipText? " " text)
  if text.isEmpty then some (weekday, { date with year }) else none

/-- The date that an ASCII text stands for, if it falls on the weekday that is written with it. -/
def read? (text : String) : Option Date := do
  let text := Text.trimBlanks text.toList
  if text.any (128 ≤ ·.toNat) then none
  let (weekday, date) ← readFixed? text <|> readShortYear? text <|> readYearLast? text
  if date.isValid ∧ date.weekday = weekday then some date else none

end Date

end HexMonitor.Http
