import HingeRank.Text

/-!
# Dates, moments and their text

Days and moments of the calendar, and the timestamps that describe them in a document.
-/

namespace HingeRank

/-!
## Dates and moments

Configuration files may hold dates and moments.  No setting accepts one, but
they can stand anywhere in a file, so their validity, their text and their
equality matter.
-/

/-- A day of the calendar. -/
structure Date where
  year : Nat
  month : Nat
  day : Nat
  deriving DecidableEq, Repr

namespace Date

def isLeap (year : Nat) : Bool :=
  year % 4 == 0 && (year % 100 != 0 || year % 400 == 0)

/-- Days in a month; none in a month that does not exist. -/
def daysIn (year month : Nat) : Nat :=
  match month with
  | 1 | 3 | 5 | 7 | 8 | 10 | 12 => 31
  | 4 | 6 | 9 | 11 => 30
  | 2 => if isLeap year then 29 else 28
  | _ => 0

def isValid (date : Date) : Bool :=
  1 ≤ date.year && date.year ≤ 9999 && 1 ≤ date.day && date.day ≤ daysIn date.year date.month

/-- Days before this one since the first day of year one. -/
def dayNumber (date : Date) : Nat :=
  let years := date.year - 1
  let months := (List.range (date.month - 1)).foldl (fun days month =>
    days + daysIn date.year (month + 1)) 0
  365 * years + years / 4 - years / 100 + years / 400 + months + (date.day - 1)

end Date

/-- Decimal digits filled up with zeros on the left. -/
def padded (width number : Nat) : String :=
  let digits := toString number
  String.ofList (List.replicate (width - digits.length) '0') ++ digits

namespace Date

def text (date : Date) : String :=
  padded 4 date.year ++ "-" ++ padded 2 date.month ++ "-" ++ padded 2 date.day

end Date

/-- A point of time, with minutes ahead of universal time where they are known. -/
structure Moment where
  date : Date
  hour : Nat
  minute : Nat
  second : Nat
  microsecond : Nat
  offset : Option Int
  deriving DecidableEq, Repr

namespace Moment

/-- The offset stays below a day in both directions. -/
def isValid (moment : Moment) : Bool :=
  moment.date.isValid && moment.hour < 24 && moment.minute < 60 && moment.second < 60 &&
    moment.offset.all fun minutes => minutes.natAbs < 24 * 60

/-- Microseconds since the start of year one, in universal time if the offset is
known. -/
def instant (moment : Moment) : Int :=
  let minutes : Int := (moment.date.dayNumber * 24 + moment.hour) * 60 + moment.minute
  ((minutes - moment.offset.getD 0) * 60 + moment.second) * 1000000 + moment.microsecond

/-- The same point of time; moments with and without an offset are never the same. -/
def same (left right : Moment) : Bool :=
  left.offset.isSome == right.offset.isSome && left.instant == right.instant

def text (moment : Moment) : String :=
  moment.date.text ++ " " ++ padded 2 moment.hour ++ ":" ++ padded 2 moment.minute ++ ":" ++
    padded 2 moment.second ++
    (if moment.microsecond = 0 then "" else "." ++ padded 6 moment.microsecond) ++
    match moment.offset with
    | none => ""
    | some minutes =>
        (if minutes < 0 then "-" else "+") ++ padded 2 (minutes.natAbs / 60) ++ ":" ++
          padded 2 (minutes.natAbs % 60)

end Moment

/-!
## Timestamps

A timestamp is a date, or a date and a time of the day with a fraction and an
offset that may follow.
-/

namespace Document

/-- A date with or without a time. -/
inductive Timestamp where
  | day (date : Date)
  | time (moment : Moment)
  deriving DecidableEq, Repr

namespace Timestamp

/-- Readers of the beginning of a text. -/
abbrev Reader (α : Type) := StateT (List Char) Option α

/-- A number of at least and at most so many digits. -/
def digits? (least most : Nat) : Reader Nat := do
  let run := ((← get).take most).takeWhile Char.isDigit
  if run.length < least then failure
  modify (·.drop run.length)
  return Text.readDecimal run

/-- A character that passes a test. -/
def sign? (test : Char → Bool) : Reader Char := do
  match ← get with
  | c :: rest => if test c then set rest; return c else failure
  | [] => failure

/-- Blanks between the parts of a timestamp. -/
def isSpace (c : Char) : Bool := c == ' ' || c == '\t'

/-- A date. -/
def date? : Reader Date := do
  let year ← digits? 4 4
  let _ ← sign? (· == '-')
  let month ← digits? 1 2
  let _ ← sign? (· == '-')
  return ⟨year, month, ← digits? 1 2⟩

/-- A letter or blanks between the date and the time. -/
def separator? : Reader Unit := do
  let c ← sign? fun c => c == 'T' || c == 't' || isSpace c
  if isSpace c then modify (·.dropWhile isSpace)

/-- Millionths of a second after a point, if there is one; further digits are cut
off. -/
def fraction? : Reader Nat := do
  match ← get with
  | '.' :: rest =>
      let digits := rest.takeWhile Char.isDigit
      set (rest.drop digits.length)
      return Text.readDecimal ((digits ++ List.replicate 6 '0').take 6)
  | _ => return 0

/-- The offset from universal time in minutes, if there is one. -/
def offset? : Reader (Option Int) := do
  match (← get).dropWhile isSpace with
  | 'Z' :: rest => set rest; return some 0
  | c :: rest =>
      if c != '-' && c != '+' then return none
      set rest
      let hours ← digits? 1 2
      let minutes ←
        match ← get with
        | ':' :: rest => set rest; digits? 2 2
        | _ => pure 0
      let total : Int := hours * 60 + minutes
      return some (if c == '-' then -total else total)
  | [] => return none

/-- A date and what may follow it. -/
def timestamp? : Reader Timestamp := do
  let date ← date?
  if (← get).isEmpty then return .day date
  separator?
  let hour ← digits? 1 2
  let _ ← sign? (· == ':')
  let minute ← digits? 2 2
  let _ ← sign? (· == ':')
  let second ← digits? 2 2
  let fraction ← fraction?
  return .time ⟨date, hour, minute, second, fraction, ← offset?⟩

/-- The timestamp that a text is, valid or not. -/
def ofText? (chars : List Char) : Option Timestamp := do
  let (timestamp, rest) ← timestamp?.run chars
  if rest.isEmpty then return timestamp else failure

/-- A scalar is taken for a timestamp without being told so, unless it is a date with
fewer than ten characters. -/
def isPlain (chars : List Char) : Bool :=
  match ofText? chars with
  | some (.day _) => chars.length == 10
  | some (.time _) => true
  | none => false

/-- The date and the time exist. -/
def isValid : Timestamp → Bool
  | day date => date.isValid
  | time moment => moment.isValid

end Timestamp

end Document

end HingeRank
