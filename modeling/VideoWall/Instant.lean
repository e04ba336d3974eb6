import VideoWall.Json.Value

/-!
# Moments in time

A moment is a whole number of nanoseconds from the start of 1970, without leap seconds.  Its text is
the Gregorian date and the time of day in UTC, with as few of 0, 3, 6 or 9 digits after the seconds
as give it exactly.
-/

namespace VideoWall

structure Instant where
  nanoseconds : Int
  deriving DecidableEq, Repr, Inhabited

/-- A day of the Gregorian calendar. -/
structure Date where
  year : Int
  month : Nat
  day : Nat
  deriving DecidableEq, Repr

/-- The date of a day counted from 1 January 1970.  Years are counted from March, so that a leap day
is the last of its year, and in cycles of 400 years, which have 146097 days each. -/
def Date.ofDays (days : Int) : Date :=
  let z := days + 719468
  let cycle := z / 146097
  let d := (z % 146097).toNat
  let y := (d - d / 1460 + d / 36524 - d / 146096) / 365
  let dayOfYear := d - (365 * y + y / 4 - y / 100)
  let m := (5 * dayOfYear + 2) / 153
  { year := y + cycle * 400 + (if m < 10 then 0 else 1)
    month := if m < 10 then m + 3 else m - 9
    day := dayOfYear - (153 * m + 2) / 5 + 1 }

/-- The digits of `n`, with zeros before them up to the width. -/
def padded (width n : Nat) : List Char :=
  let ds := Nat.toDigits 10 n
  List.replicate (width - ds.length) '0' ++ ds

namespace Instant

def ofMillis (ms : Int) : Instant := ⟨ms * 1000000⟩

/-- Whole seconds and the nanoseconds after them. -/
def ofSeconds (seconds : Int) (nanoseconds : Nat) : Instant := ⟨seconds * 1000000000 + nanoseconds⟩

/-- Whole milliseconds from `earlier` to `later`, cut towards zero. -/
def millisBetween (earlier later : Instant) : Int :=
  (later.nanoseconds - earlier.nanoseconds).tdiv 1000000

def date (t : Instant) : Date := .ofDays (t.nanoseconds / 86400000000000)

/-- Nanoseconds from the start of the day. -/
def ofDay (t : Instant) : Nat := (t.nanoseconds % 86400000000000).toNat

/-- Four digits, and a sign if they do not suffice. -/
def yearChars (year : Int) : List Char :=
  if 0 ≤ year ∧ year ≤ 9999 then padded 4 year.toNat
  else (if year < 0 then '-' else '+') :: padded 4 year.natAbs

/-- Hours, minutes and seconds. -/
def clockChars (t : Instant) : List Char :=
  let s := t.ofDay / 1000000000
  padded 2 (s / 3600) ++ ':' :: (padded 2 (s / 60 % 60) ++ ':' :: padded 2 (s % 60))

/-- The fraction of a second: none, or the fewest of 3, 6 or 9 digits that give it exactly. -/
def fractionChars (t : Instant) : List Char :=
  let n := t.ofDay % 1000000000
  if n = 0 then []
  else if n % 1000000 = 0 then '.' :: padded 3 (n / 1000000)
  else if n % 1000 = 0 then '.' :: padded 6 (n / 1000)
  else '.' :: padded 9 n

def chars (t : Instant) : List Char :=
  let d := t.date
  yearChars d.year ++ '-' :: (padded 2 d.month ++ '-' :: (padded 2 d.day ++ 'T' ::
    (t.clockChars ++ (t.fractionChars ++ ['Z']))))

/-- Date and time of day. -/
def text (t : Instant) : String := String.ofList t.chars

/-- Time of day to the second. -/
def clockText (t : Instant) : String := String.ofList t.clockChars

def toJson (t : Instant) : Json := .str t.text

end Instant

end VideoWall
