import IndexExplorer.Number.Read
import IndexExplorer.Number.Shortest

/-!
Moments as seconds since 1970, and the forms in which they are written.
-/
namespace IndexExplorer

/-- A moment in the calendar. -/
structure Moment where
  year : Int
  month : Nat
  day : Nat
  hour : Nat
  minute : Nat
  second : Nat
  /-- days since Sunday -/
  weekday : Nat
deriving DecidableEq, Repr

namespace Moment

/-- Year, month and day of a count of days since 1970. The year begins in March here, so that the
leap day is its last. -/
def dateOfDays (days : Int) : Int × Nat × Nat :=
  let z := days + 719468
  let era := Int.fdiv z 146097
  let dayOfEra := (z - era * 146097).toNat
  let yearOfEra := (dayOfEra - dayOfEra / 1460 + dayOfEra / 36524 - dayOfEra / 146096) / 365
  let dayOfYear := dayOfEra - (365 * yearOfEra + yearOfEra / 4 - yearOfEra / 100)
  let shifted := (5 * dayOfYear + 2) / 153
  let day := dayOfYear - (153 * shifted + 2) / 5 + 1
  let month := if shifted < 10 then shifted + 3 else shifted - 9
  let year : Int := yearOfEra + era * 400
  (if month ≤ 2 then year + 1 else year, month, day)

/-- The moment that is `seconds` after the beginning of 1970. -/
def ofSeconds (seconds : Int) : Moment :=
  let days := Int.fdiv seconds 86400
  let rest := (seconds - days * 86400).toNat
  let (year, month, day) := dateOfDays days
  ⟨year, month, day, rest / 3600, rest / 60 % 60, rest % 60, (Int.fmod (days + 4) 7).toNat⟩

/-- A number with at least `width` digits. -/
def digits (width n : Nat) : String := String.ofList (Number.padded width n)

/-- Date and time without separators: `20150830T123600Z`. The year has as many digits as it
needs. -/
def compact (m : Moment) : String :=
  toString m.year ++ digits 2 m.month ++ digits 2 m.day ++ "T" ++
    digits 2 m.hour ++ digits 2 m.minute ++ digits 2 m.second ++ "Z"

/-- The days from the beginning of 1970 to a date. -/
def daysOf (year : Int) (month day : Nat) : Int :=
  let year := if month ≤ 2 then year - 1 else year
  let era := Int.fdiv year 400
  let yearOfEra := (year - era * 400).toNat
  let shifted := if month ≤ 2 then month + 9 else month - 3
  let dayOfYear := (153 * shifted + 2) / 5 + day - 1
  let dayOfEra := yearOfEra * 365 + yearOfEra / 4 - yearOfEra / 100 + dayOfYear
  era * 146097 + dayOfEra - 719468

/-- Why a text without separators is no moment. -/
inductive CompactFault where
  | malformed
  | noSuchDay
deriving DecidableEq, Repr

/-- The number that digits spell. -/
def number (cs : List Char) : Nat := Number.ofDigits cs

/-- The digits of a month and of a day behind each other, each of one digit or of two. Two digits
for the month are tried first. -/
def monthDay? (cs : List Char) : Option (Nat × Nat) :=
  [2, 1].findSome? fun width =>
    let (m, d) := (number (cs.take width), number (cs.drop width))
    let left := cs.length - width
    if 1 ≤ m && m ≤ 12 && 1 ≤ d && d ≤ 31 && (left = 1 || left = 2) then some (m, d) else none

/-- The moment that a text without separators spells, when it is read with a year of four
digits. -/
def ofCompact (text : String) : Except CompactFault Moment :=
  let cs := text.toList
  let date := cs.takeWhile (· ≠ 'T')
  let time := cs.drop (date.length + 1)
  match monthDay? (date.drop 4) with
  | none => .error .malformed
  | some (month, day) =>
    let days := daysOf (number (date.take 4)) month day
    if dateOfDays days ≠ (((number (date.take 4) : Nat) : Int), month, day) then .error .noSuchDay
    else
      let seconds := number (time.take 2) * 3600 + number ((time.drop 2).take 2) * 60 +
        number ((time.drop 4).take 2)
      .ok (ofSeconds (days * 86400 + seconds))

/-- The time of day: `12:36:00`. -/
def time (m : Moment) : String :=
  digits 2 m.hour ++ ":" ++ digits 2 m.minute ++ ":" ++ digits 2 m.second

/-- The form of mail headers: `Sun, 30 Aug 2015 12:36:00 -0000`. -/
def mail (m : Moment) : String :=
  let weekday := ["Sun", "Mon", "Tue", "Wed", "Thu", "Fri", "Sat"].getD m.weekday ""
  let month := ["Jan", "Feb", "Mar", "Apr", "May", "Jun", "Jul", "Aug", "Sep", "Oct", "Nov",
    "Dec"].getD (m.month - 1) ""
  weekday ++ ", " ++ digits 2 m.day ++ " " ++ month ++ " " ++ digits 4 m.year.toNat ++ " " ++
    m.time ++ " -0000"

/-- The standard form with its offset: `2015-08-30T12:36:00+00:00`. -/
def iso (m : Moment) : String :=
  digits 4 m.year.toNat ++ "-" ++ digits 2 m.month ++ "-" ++ digits 2 m.day ++ "T" ++ m.time ++
    "+00:00"

end Moment

end IndexExplorer
