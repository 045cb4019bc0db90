/-!
# Instants

An `Instant` is a moment in universal time, given by its calendar fields; a second may be a leap
second (60). `text` writes it as `2024-01-02T03:04:05.678Z`, with 0, 3, 6 or 9 digits of a second.
Calendar arithmetic is needed only to take an offset off a local time.

In the program: the times of records, messages and agents, in universal time, as its time library
writes them.

* `isValid`: the fields name a moment of the (proleptic) Gregorian calendar.
* `shift`: a number of minutes earlier.
-/

namespace ActionTree

/-- A moment in universal time. -/
structure Instant where
  year : Int
  month : Nat
  day : Nat
  hour : Nat
  minute : Nat
  /-- Up to 60, for a leap second. -/
  second : Nat
  nano : Nat
  deriving DecidableEq

namespace Instant

/-- The start of 1970. -/
def epoch : Instant := ⟨1970, 1, 1, 0, 0, 0, 0⟩

/-- Has the year a 29th of February? -/
def isLeap (year : Int) : Bool := year % 4 == 0 && (year % 100 != 0 || year % 400 == 0)

/-- The number of days of a month. -/
def daysIn (year : Int) (month : Nat) : Nat :=
  if month = 2 then (if isLeap year then 29 else 28)
  else if month = 4 ∨ month = 6 ∨ month = 9 ∨ month = 11 then 30
  else 31

/-- The first year that dates have. -/
def firstYear : Int := -262143

/-- The last year that dates have. -/
def lastYear : Int := 262142

/-- Do the fields name a moment? -/
def isValid (t : Instant) : Bool :=
  firstYear ≤ t.year && t.year ≤ lastYear && 1 ≤ t.month && t.month ≤ 12 && 1 ≤ t.day
    && t.day ≤ daysIn t.year t.month && t.hour < 24 && t.minute < 60 && t.second ≤ 60
    && t.nano < 1000000000

/-! ## Calendar arithmetic -/

/-- The day before, at the same time. -/
def dayBefore (t : Instant) : Instant :=
  if 1 < t.day then { t with day := t.day - 1 }
  else if 1 < t.month then { t with month := t.month - 1, day := daysIn t.year (t.month - 1) }
  else { t with year := t.year - 1, month := 12, day := 31 }

/-- The day after, at the same time. -/
def dayAfter (t : Instant) : Instant :=
  if t.day < daysIn t.year t.month then { t with day := t.day + 1 }
  else if t.month < 12 then { t with month := t.month + 1, day := 1 }
  else { t with year := t.year + 1, month := 1, day := 1 }

/-- A number of minutes earlier; a whole day at most, either way. -/
def shift (t : Instant) (minutes : Int) : Instant :=
  let m : Int := t.hour * 60 + t.minute - minutes
  let at_ (u : Instant) (m : Nat) : Instant := { u with hour := m / 60, minute := m % 60 }
  if m < 0 then at_ t.dayBefore (m + 1440).toNat
  else if m < 1440 then at_ t m.toNat
  else at_ t.dayAfter (m - 1440).toNat

/-- The moment some seconds and nanoseconds after the start of 1970. -/
def ofEpoch (seconds : Int) (nano : Nat) : Instant :=
  let days := seconds.fdiv 86400
  let rest := (seconds.fmod 86400).toNat
  let z := days + 719468
  let era := z.fdiv 146097
  let doe := (z.fmod 146097).toNat
  let yoe := (doe - doe / 1460 + doe / 36524 - doe / 146096) / 365
  let doy := doe - (365 * yoe + yoe / 4 - yoe / 100)
  let mp := (5 * doy + 2) / 153
  let month := if mp < 10 then mp + 3 else mp - 9
  let year : Int := yoe + era * 400 + (if month ≤ 2 then 1 else 0)
  ⟨year, month, doy - (153 * mp + 2) / 5 + 1, rest / 3600, rest / 60 % 60, rest % 60, nano⟩

/-! ## Text -/

/-- A number with zeros in front, up to a width. -/
def padded (width n : Nat) : List Char :=
  let ds := Nat.toDigits 10 n
  List.replicate (width - ds.length) '0' ++ ds

/-- The year: four digits, or a sign and at least four digits outside of 0 to 9999. -/
def yearText (year : Int) : List Char :=
  if 0 ≤ year ∧ year ≤ 9999 then padded 4 year.toNat
  else (if year < 0 then '-' else '+') :: padded 4 year.natAbs

/-- The fraction of a second, with as many groups of three digits as it needs. -/
def fractionText (nano : Nat) : List Char :=
  if nano = 0 then []
  else if nano % 1000000 = 0 then '.' :: padded 3 (nano / 1000000)
  else if nano % 1000 = 0 then '.' :: padded 6 (nano / 1000)
  else '.' :: padded 9 nano

/-- The text of a moment. -/
def chars (t : Instant) : List Char :=
  yearText t.year ++ '-' :: padded 2 t.month ++ '-' :: padded 2 t.day ++ 'T' :: padded 2 t.hour
    ++ ':' :: padded 2 t.minute ++ ':' :: padded 2 t.second ++ fractionText t.nano ++ ['Z']

/-- The text of a moment. -/
def text (t : Instant) : String := String.ofList t.chars

end Instant

end ActionTree
