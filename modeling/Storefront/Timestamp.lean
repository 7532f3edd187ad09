import Storefront.Text.Blank
import Storefront.Text.Numeral

/-!
# Timestamps

Instants of the proleptic Gregorian calendar in universal time, to the nanosecond, with leap
seconds kept as a sixtieth second. `Timestamp.text` writes one form: date, `T`, time, the fewest of
0, 3, 6 or 9 decimals that are exact, and `Z`. `Timestamp.parse?` reads that form with any offset,
and tolerates blanks between the parts.
-/

namespace Storefront

/-- The year has a twenty-ninth of February. -/
def isLeapYear (year : Int) : Bool :=
  year % 4 == 0 && (year % 100 != 0 || year % 400 == 0)

/-- The number of days of a month, and zero for what is no month. -/
def monthLength (year : Int) (month : Nat) : Nat :=
  if month = 2 then if isLeapYear year then 29 else 28
  else if month = 4 ∨ month = 6 ∨ month = 9 ∨ month = 11 then 30
  else if 1 ≤ month ∧ month ≤ 12 then 31
  else 0

/-- Year, month, and day name a day of the calendar. -/
def IsDate (year : Int) (month day : Nat) : Prop :=
  1 ≤ day ∧ day ≤ monthLength year month

/-- `IsDate` is decidable by two comparisons. -/
instance (year : Int) (month day : Nat) : Decidable (IsDate year month day) :=
  inferInstanceAs (Decidable (_ ∧ _))

/-- A day of the calendar. -/
structure Date where
  year : Int
  month : Nat
  day : Nat
  isDate : IsDate year month day
  deriving DecidableEq

namespace Date

/-- The day on which Unix time begins. -/
def epoch : Date :=
  ⟨1970, 1, 1, by decide⟩

/-- The day after. -/
def next (d : Date) : Date :=
  if h : IsDate d.year d.month (d.day + 1) then ⟨d.year, d.month, d.day + 1, h⟩
  else if h : IsDate d.year (d.month + 1) 1 then ⟨d.year, d.month + 1, 1, h⟩
  else ⟨d.year + 1, 1, 1, by simp [IsDate, monthLength]⟩

/-- The day before. -/
def previous (d : Date) : Date :=
  if h : IsDate d.year d.month (d.day - 1) then ⟨d.year, d.month, d.day - 1, h⟩
  else if h : IsDate d.year (d.month - 1) (monthLength d.year (d.month - 1)) then
    ⟨d.year, d.month - 1, monthLength d.year (d.month - 1), h⟩
  else ⟨d.year - 1, 12, 31, by simp [IsDate, monthLength]⟩

/-- The day a number of days later. -/
def plusDays (d : Date) : Nat → Date
  | 0 => d
  | n + 1 => (d.plusDays n).next

end Date

/-- Seconds in a day. -/
def secondsPerDay : Nat := 86400

namespace Timestamp

/-- The first and the last year of the calendar. -/
def yearBounds : Int × Int := (-262143, 262142)

/-- The year lies within the bounds. -/
def isYear (year : Int) : Bool :=
  yearBounds.1 ≤ year && year ≤ yearBounds.2

end Timestamp

/-- An instant of the calendar: the day, the second of the day, whether it is the leap second after
that second, and the nanosecond. Only the last second of a minute may have a leap second after
it. -/
structure Timestamp where
  date : Date
  second : Nat
  leap : Bool
  nanos : Nat
  year_spec : Timestamp.isYear date.year = true
  second_lt : second < secondsPerDay
  leap_spec : leap = true → second % 60 = 59
  nanos_lt : nanos < 1000000000
  deriving DecidableEq

namespace Timestamp

/-- The last instant of the calendar. -/
def last : Timestamp :=
  ⟨⟨yearBounds.2, 12, 31, by decide⟩, secondsPerDay - 1, false, 999999999, rfl, by decide, nofun,
    by decide⟩

/-- What a clock shows a number of milliseconds after the beginning of Unix time. It stops at the
last instant of the calendar. -/
def ofMillis (ms : Nat) : Timestamp :=
  let date := Date.epoch.plusDays (ms / 1000 / secondsPerDay)
  if h : isYear date.year then
    ⟨date, ms / 1000 % secondsPerDay, false, ms % 1000 * 1000000, h, Nat.mod_lt _ (by decide),
      nofun, by omega⟩
  else last

/-- The year with four digits, and with a sign when it needs more or is negative. -/
def yearText (year : Int) : String :=
  if 0 ≤ year ∧ year ≤ 9999 then Text.decimalPadded 4 year.natAbs
  else (if year < 0 then "-" else "+") ++ Text.decimalPadded 4 year.natAbs

/-- The decimals of a second: none, or a point and the fewest of 3, 6 or 9 digits. -/
def fractionText (nanos : Nat) : String :=
  if nanos = 0 then ""
  else if nanos % 1000000 = 0 then "." ++ Text.decimalPadded 3 (nanos / 1000000)
  else if nanos % 1000 = 0 then "." ++ Text.decimalPadded 6 (nanos / 1000)
  else "." ++ Text.decimalPadded 9 nanos

/-- The written form. -/
def text (t : Timestamp) : String :=
  yearText t.date.year ++ "-" ++ Text.decimalPadded 2 t.date.month ++ "-" ++
    Text.decimalPadded 2 t.date.day ++ "T" ++
    Text.decimalPadded 2 (t.second / 3600) ++ ":" ++
    Text.decimalPadded 2 (t.second / 60 % 60) ++ ":" ++
    Text.decimalPadded 2 (t.second % 60 + if t.leap then 1 else 0) ++
    fractionText t.nanos ++ "Z"

/-- The second within its day is less than the length of a day. -/
theorem secondOfDay_lt (n : Int) : (n % secondsPerDay).toNat < secondsPerDay := by
  simp only [secondsPerDay]
  omega

/-- A shift by whole minutes keeps the last second of a minute. -/
theorem lastOfMinute_shift {second : Nat} (minutes : Int) (h : second % 60 = 59) :
    (((second : Int) - 60 * minutes) % secondsPerDay).toNat % 60 = 59 := by
  simp only [secondsPerDay]
  omega

/-- The instant when a local time is that many minutes ahead of universal time, if it lies within
the calendar. The offset is less than a day, so the date moves by at most one day. -/
def ofLocal? (date : Date) (second : Nat) (leap : Bool) (nanos : Nat) (minutes : Int)
    (leap_spec : leap = true → second % 60 = 59) (nanos_lt : nanos < 1000000000) :
    Option Timestamp :=
  let shifted : Int := second - 60 * minutes
  let day := if shifted < 0 then date.previous else
    if (secondsPerDay : Int) ≤ shifted then date.next else date
  if h : isYear day.year then
    some ⟨day, (shifted % secondsPerDay).toNat, leap, nanos, h, secondOfDay_lt shifted,
      fun hleap ↦ lastOfMinute_shift minutes (leap_spec hleap), nanos_lt⟩
  else none

/-- Drop blanks at the front. -/
def skipBlanks (cs : List Char) : List Char :=
  cs.dropWhile Text.isBlank

/-- Read between one and `width` digits, after blanks. -/
def number? (width : Nat) (cs : List Char) : Option (Nat × List Char) := do
  let cs := skipBlanks cs
  let digits := (cs.take width).takeWhile Char.isDigit
  let n ← Text.decimal? digits
  some (n, cs.drop digits.length)

/-- Read a year: four digits at most, or any number of digits after a sign. -/
def year? (cs : List Char) : Option (Int × List Char) :=
  match skipBlanks cs with
  | '-' :: rest =>
      if rest.head?.any Char.isDigit then
        (number? rest.length rest).map fun (n, rest) ↦ (-n, rest)
      else none
  | '+' :: rest =>
      if rest.head?.any Char.isDigit then
        (number? rest.length rest).map fun (n, rest) ↦ (n, rest)
      else none
  | rest => (number? 4 rest).map fun (n, rest) ↦ (n, rest)

/-- Skip blanks and one given character. -/
def literal? (c : Char) (cs : List Char) : Option (List Char) :=
  match skipBlanks cs with
  | d :: rest => if d = c then some rest else none
  | [] => none

/-- Read the decimals after the second, if there is a point; digits after the ninth are dropped. -/
def fraction? : List Char → Option (Nat × List Char)
  | '.' :: cs => do
      let digits := (cs.take 9).takeWhile Char.isDigit
      let n ← Text.decimal? digits
      some (n * Nat.pow 10 (9 - digits.length), (cs.drop digits.length).dropWhile Char.isDigit)
  | cs => some (0, cs)

/-- Two decimal digits. -/
def twoDigits? (a b : Char) : Option Nat := do
  let high ← Text.digit? a
  let low ← Text.digit? b
  some (10 * high + low)

/-- Hours and minutes of an offset after its sign, with colons or blanks between them, in
minutes. -/
def offsetBody? : List Char → Option (Nat × List Char)
  | a :: b :: rest => do
      let hours ← twoDigits? a b
      match rest.dropWhile fun c ↦ c = ':' || Text.isBlank c with
      | c :: d :: rest => do
          let minutes ← twoDigits? c d
          if minutes < 60 then some (hours * 60 + minutes, rest) else none
      | _ => none
  | _ => none

/-- The offset from universal time in minutes: `Z`, `UTC`, or a sign with hours and minutes. -/
def offset? (cs : List Char) : Option (Int × List Char) :=
  if (cs.take 3).map Char.toLower = ['u', 't', 'c'] then some (0, cs.drop 3)
  else
    match cs with
    | [] => none
    | c :: rest =>
        if c = 'Z' || c = 'z' then some (0, rest)
        else if c = '+' then (offsetBody? rest).map fun (n, rest) ↦ (n, rest)
        else if c = '-' || c.toNat = 0x2212 then
          (offsetBody? rest).map fun (n, rest) ↦ (-n, rest)
        else none

/-- The character between date and time. -/
def separator? : List Char → Option (List Char)
  | c :: rest => if c = 'T' || c = 't' || c = ' ' then some rest else none
  | [] => none

/-- The second of the day of a time that is shown with a sixtieth second. -/
theorem lastOfMinute_sixtieth (hour minute : Nat) {second : Nat} (h : (second == 60) = true) :
    (hour * 3600 + minute * 60 + if second == 60 then 59 else second) % 60 = 59 := by
  rw [if_pos h]
  omega

/-- Read a timestamp. The year must lie within the bounds both as it is written and in universal
time. -/
def parse? (s : String) : Option Timestamp := do
  let (year, cs) ← year? s.toList
  let cs ← literal? '-' cs
  let (month, cs) ← number? 2 cs
  let cs ← literal? '-' cs
  let (day, cs) ← number? 2 cs
  let cs ← separator? cs
  let (hour, cs) ← number? 2 cs
  let cs ← literal? ':' cs
  let (minute, cs) ← number? 2 cs
  let cs ← literal? ':' cs
  let (second, cs) ← number? 2 cs
  let (nanos, cs) ← fraction? cs
  let (offset, cs) ← offset? (skipBlanks cs)
  if (skipBlanks cs).isEmpty && hour < 24 && minute < 60 && second ≤ 60 &&
      60 * offset.natAbs < secondsPerDay && isYear year then
    if date : IsDate year month day then
      if small : nanos < 1000000000 then
        ofLocal? ⟨year, month, day, date⟩
          (hour * 3600 + minute * 60 + if second == 60 then 59 else second) (second == 60) nanos
          offset (lastOfMinute_sixtieth hour minute) small
      else none
    else none
  else none

end Timestamp

end Storefront
