/-
# QueryBind.Calendar — days and instants of the Gregorian calendar

A `Date` is a day, counted from 1970-01-01; a `Timestamp` is a count of nanoseconds from the
start of that day. The civil year, month and day are views of the count (`Date.civil`), by the
400-year cycle of 146097 days that starts on the first of March. Texts follow ISO 8601, with a
sign on years outside 0 to 9999.
-/
import QueryBind.Text.Numeral

namespace QueryBind

set_option autoImplicit false

/-- A day, counted from 1970-01-01. -/
structure Date where
  day : Int
  deriving DecidableEq, Repr

/-- Nanoseconds from the start of 1970-01-01. -/
structure Timestamp where
  nanos : Int
  deriving DecidableEq, Repr

/-- Year, month and day of the month. -/
structure Civil where
  year : Int
  month : Nat
  day : Nat
  deriving DecidableEq, Repr

namespace Calendar

def isLeap (year : Int) : Bool := year % 4 == 0 && (year % 100 != 0 || year % 400 == 0)

def daysInMonth (year : Int) (month : Nat) : Nat :=
  if month = 2 then (if isLeap year then 29 else 28)
  else if month = 4 ∨ month = 6 ∨ month = 9 ∨ month = 11 then 30
  else 31

/-- Days from 1970-01-01 back to 0000-03-01, where the count by cycles starts. -/
def cycleStart : Int := 719468

def cycleDays : Int := 146097

end Calendar

open Calendar Text

namespace Civil

/-- The years that a date may have. -/
def leastYear : Int := -262143
def greatestYear : Int := 262142

def isValid (c : Civil) : Bool :=
  leastYear ≤ c.year && c.year ≤ greatestYear && 1 ≤ c.month && c.month ≤ 12 && 1 ≤ c.day &&
    c.day ≤ daysInMonth c.year c.month

/-- The day of a civil date. -/
def toDate (c : Civil) : Date :=
  let year := if c.month ≤ 2 then c.year - 1 else c.year
  let cycle := year / 400
  let yearOfCycle := year % 400
  let month : Int := if 2 < c.month then c.month - 3 else c.month + 9
  let dayOfYear := (153 * month + 2) / 5 + c.day - 1
  let dayOfCycle := yearOfCycle * 365 + yearOfCycle / 4 - yearOfCycle / 100 + dayOfYear
  ⟨cycle * cycleDays + dayOfCycle - cycleStart⟩

/-- The year, with a sign when it is not written with four digits. -/
def yearText (year : Int) : List Char :=
  if 0 ≤ year ∧ year ≤ 9999 then padded 4 year.toNat
  else (if year < 0 then '-' else '+') :: padded 4 year.natAbs

def text (c : Civil) : List Char :=
  yearText c.year ++ '-' :: padded 2 c.month ++ '-' :: padded 2 c.day

end Civil

namespace Date

instance : Inhabited Date := ⟨⟨0⟩⟩

/-- The civil date of a day. -/
def civil (d : Date) : Civil :=
  let shifted := d.day + cycleStart
  let cycle := shifted / cycleDays
  let dayOfCycle := shifted % cycleDays
  let yearOfCycle :=
    (dayOfCycle - dayOfCycle / 1460 + dayOfCycle / 36524 - dayOfCycle / 146096) / 365
  let dayOfYear := dayOfCycle - (365 * yearOfCycle + yearOfCycle / 4 - yearOfCycle / 100)
  let marchMonth := (5 * dayOfYear + 2) / 153
  let day := dayOfYear - (153 * marchMonth + 2) / 5 + 1
  let month := if marchMonth < 10 then marchMonth + 3 else marchMonth - 9
  let year := yearOfCycle + cycle * 400
  ⟨if month ≤ 2 then year + 1 else year, month.toNat, day.toNat⟩

/-- The first and last day that a date may be. -/
def first : Date := Civil.toDate ⟨Civil.leastYear, 1, 1⟩
def last : Date := Civil.toDate ⟨Civil.greatestYear, 12, 31⟩

def isValid (d : Date) : Bool := first.day ≤ d.day && d.day ≤ last.day

/-- The text `YYYY-MM-DD`. -/
def text (d : Date) : List Char := d.civil.text

/-- A date from its text, with an optional sign before the year. -/
def parse? (s : List Char) : Option Date :=
  let (negative, unsigned) :=
    match s with
    | '-' :: rest => (true, rest)
    | '+' :: rest => (false, rest)
    | _ => (false, s)
  let year := unsigned.takeWhile Char.isDigit
  match unsigned.dropWhile Char.isDigit with
  | ['-', m1, m2, '-', d1, d2] =>
      match natural? year, natural? [m1, m2], natural? [d1, d2] with
      | some y, some month, some day =>
          let c : Civil := ⟨if negative then -(y : Int) else y, month, day⟩
          if c.isValid then some c.toDate else none
      | _, _, _ => none
  | _ => none

end Date

namespace Timestamp

instance : Inhabited Timestamp := ⟨⟨0⟩⟩

def nanosPerSecond : Int := 1000000000

def nanosPerDay : Int := 86400 * nanosPerSecond

def date (t : Timestamp) : Date := ⟨t.nanos / nanosPerDay⟩

def nanoOfDay (t : Timestamp) : Nat := (t.nanos % nanosPerDay).toNat

/-- Nanoseconds past the last full second. -/
def fraction (t : Timestamp) : Nat := t.nanoOfDay % 1000000000

def isValid (t : Timestamp) : Bool := t.date.isValid

def ofDate (d : Date) (nanoOfDay : Nat) : Timestamp := ⟨d.day * nanosPerDay + nanoOfDay⟩

/-- The text to the second, `YYYY-MM-DDThh:mm:ss`. -/
def secondText (t : Timestamp) : List Char :=
  let second := t.nanoOfDay / 1000000000
  t.date.text ++ 'T' :: padded 2 (second / 3600) ++ ':' :: padded 2 (second / 60 % 60) ++
    ':' :: padded 2 (second % 60)

/-- The text with nine fraction digits. -/
def text (t : Timestamp) : List Char := t.secondText ++ '.' :: padded 9 t.fraction

/-- The text with as many groups of three fraction digits as the fraction needs. -/
def shortText (t : Timestamp) : List Char :=
  t.secondText ++
    if t.fraction = 0 then []
    else if t.fraction % 1000000 = 0 then '.' :: padded 3 (t.fraction / 1000000)
    else if t.fraction % 1000 = 0 then '.' :: padded 6 (t.fraction / 1000)
    else '.' :: padded 9 t.fraction

/-- The nanoseconds that a fraction of a second spells, at most nine digits after the point. -/
def fraction? : List Char → Option Nat
  | [] => some 0
  | '.' :: digits =>
      if digits.length ≤ 9 then
        (natural? digits).map fun n => n * Nat.pow 10 (9 - digits.length)
      else none
  | _ => none

/-- A timestamp from its text, with up to nine fraction digits. -/
def parse? (s : List Char) : Option Timestamp :=
  let day := s.takeWhile (· != 'T')
  match s.dropWhile (· != 'T') with
  | 'T' :: h1 :: h2 :: ':' :: m1 :: m2 :: ':' :: s1 :: s2 :: rest =>
      match Date.parse? day, natural? [h1, h2], natural? [m1, m2], natural? [s1, s2],
        fraction? rest with
      | some d, some hour, some minute, some second, some nanos =>
          if hour < 24 ∧ minute < 60 ∧ second < 60 then
            some (ofDate d ((hour * 3600 + minute * 60 + second) * 1000000000 + nanos))
          else none
      | _, _, _, _, _ => none
  | _ => none

end Timestamp

/-- A point in time, by its timestamp in universal time. -/
structure Instant where
  utc : Timestamp
  deriving DecidableEq, Repr

instance : Inhabited Instant := ⟨⟨default⟩⟩

/-- A span of time in nanoseconds. -/
structure Duration where
  nanos : Nat
  deriving DecidableEq, Repr

namespace Duration

def ofMillis (n : Nat) : Duration := ⟨n * 1000000⟩

def ofSecsNanos (secs nanos : Nat) : Duration := ⟨secs * 1000000000 + nanos⟩

/-- A quotient with all its decimals, for a denominator that is a power of ten. -/
def decimalText (places : Nat) (n : Nat) : List Char :=
  let decimals := (padded places (n % Nat.pow 10 places)).reverse.dropWhile (· == '0') |>.reverse
  natural (n / Nat.pow 10 places) ++ if decimals.isEmpty then [] else '.' :: decimals

/-- The text in the largest unit among seconds, milli-, micro- and nanoseconds that the span
reaches. -/
def text (d : Duration) : List Char :=
  if 1000000000 ≤ d.nanos then decimalText 9 d.nanos ++ ['s']
  else if 1000000 ≤ d.nanos then decimalText 6 d.nanos ++ ['m', 's']
  else if 1000 ≤ d.nanos then decimalText 3 d.nanos ++ ['µ', 's']
  else decimalText 0 d.nanos ++ ['n', 's']

end Duration

end QueryBind
