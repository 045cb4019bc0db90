import ActionTree.Instant.Basic
import ActionTree.Testing.Sh.Format

/-!
# The calendar

Days are counted from the start of 1970, seconds from its first midnight. A format is a text with
conversions, each of which writes a part of a moment.

* `Calendar.seconds`: the seconds up to a moment, whose fields may be out of range.
* `Calendar.written`: a moment in a format.
-/

namespace ActionTree.Sh.Calendar

/-- When the time of the machine starts, in seconds. -/
def origin : Int := 1767225600

/-- The seconds of a day. -/
def daySeconds : Int := 86400

/-- The days from the start of 1970 to the first day of a month, which may be outside of its year.
-/
def monthStart (year month : Int) : Int :=
  let year := year + (month - 1).fdiv 12
  let month := (month - 1).fmod 12
  -- A year that starts with March has its leap day at the end.
  let shifted := if month < 2 then year - 1 else year
  let position := (month + 10).fmod 12
  let days := shifted * 365 + shifted.fdiv 4 - shifted.fdiv 100 + shifted.fdiv 400
  days + (153 * position + 2).fdiv 5 - 719468

/-- The seconds up to a moment, whose fields may be out of range. -/
def seconds (year month day hour minute second : Int) : Int :=
  (monthStart year month + day - 1) * daySeconds + hour * 3600 + minute * 60 + second

/-- The days from the start of 1970 to a moment. -/
def days (t : Instant) : Int := monthStart t.year t.month + t.day - 1

/-- The day of the week, from Sunday on. -/
def weekday (t : Instant) : Nat := ((days t + 4).fmod 7).toNat

/-- The day of the year, from 0 on. -/
def yearDay (t : Instant) : Nat := (days t - monthStart t.year 1).toNat

/-- The year that the week of a moment belongs to, and the number of the week in it: weeks start on
Monday and belong to the year in which their Thursday is. -/
def weekOf (t : Instant) : Int × Nat :=
  let thursday := Instant.ofEpoch ((days t - ((weekday t + 6) % 7 : Nat) + 3) * daySeconds) 0
  (thursday.year, yearDay thursday / 7 + 1)

/-- The names of the days of the week. -/
def dayNames : List String :=
  ["Sunday", "Monday", "Tuesday", "Wednesday", "Thursday", "Friday", "Saturday"]

/-- The names of the months. -/
def monthNames : List String :=
  ["January", "February", "March", "April", "May", "June", "July", "August", "September", "October",
    "November", "December"]

/-! ## Formats -/

/-- How the part of a moment is written, apart from what the conversion says itself. -/
structure Manner where
  /-- What a number is filled up with, if it is said: nothing in the place of a hyphen. -/
  fill : Option Char
  upper : Bool
  /-- Are the letters changed to the other case? -/
  swaps : Bool
  width : Option Nat

/-- A text in letters of the wanted case. -/
def cased (m : Manner) (cs : Bytes) : Bytes :=
  if m.swaps then
    (if cs.any Char.isLower && cs.any Char.isUpper then cs.map Char.toUpper
    else cs.map fun c => if c.isUpper then c.toLower else c.toUpper)
  else if m.upper then cs.map Char.toUpper
  else cs

/-- A text of several parts, in which letters keep their case unless all are capital. -/
def Manner.joint (m : Manner) : Manner := { m with swaps := false }

/-- A text filled up to the width. -/
def filledText (m : Manner) (cs : Bytes) : Bytes :=
  let cs := cased m cs
  if m.fill = some '-' then cs
  else
    let c := if m.fill = some '0' then '0' else ' '
    List.replicate ((m.width.getD 0) - cs.length) c ++ cs

/-- A number filled up to a width. -/
def filledNumber (m : Manner) (usual : Char) (width : Nat) (n : Int) : Bytes :=
  let ds := Nat.toDigits 10 n.natAbs
  let fill := m.fill.getD usual
  let sign : Bytes := if n < 0 then ['-'] else []
  if fill = '-' then sign ++ ds
  else if fill = ' ' then pad false (m.width.getD width) (sign ++ ds)
  else sign ++ List.replicate (m.width.getD width - sign.length - ds.length) '0' ++ ds

/-- The difference from universal time, with so many colons. -/
def offset (colons : Nat) : Bytes :=
  match colons with
  | 0 => "+0000".toList
  | 1 => "+00:00".toList
  | 2 => "+00:00:00".toList
  | _ => "+00".toList

/-- What a conversion writes of a moment, if there is such a conversion: a text or a number. -/
def part? (t : Instant) (m : Manner) (colons : Nat) (c : Char) : Option Bytes :=
  let name (names : List String) (i short : Nat) : Bytes :=
    let cs := (names.getD i "").toList
    filledText m (if short = 0 then cs else cs.take short)
  let number (usual : Char) (width : Nat) (n : Int) : Option Bytes :=
    some (filledNumber m usual width n)
  let two (n : Int) : Option Bytes := number '0' 2 n
  let hour := if t.hour % 12 = 0 then 12 else t.hour % 12
  let half : Bytes := if t.hour < 12 then "am".toList else "pm".toList
  let digits (n : Nat) : Bytes := Instant.padded 2 n
  let clock : Bytes := digits t.hour ++ ':' :: digits t.minute
  let date : Bytes := digits t.month ++ '/' :: digits t.day ++ '/' :: digits (t.year.fmod 100).toNat
  let (weekYear, week) := weekOf t
  match c with
  | 'a' => some (name dayNames (weekday t) 3)
  | 'A' => some (name dayNames (weekday t) 0)
  | 'b' | 'h' => some (name monthNames (t.month - 1) 3)
  | 'B' => some (name monthNames (t.month - 1) 0)
  | 'c' =>
    some (filledText m.joint ((dayNames.getD (weekday t) "").toList.take 3 ++ ' '
      :: (monthNames.getD (t.month - 1) "").toList.take 3
      ++ ' ' :: pad false 2 (decimal (t.day : Nat))
      ++ ' ' :: clock ++ ':' :: digits t.second ++ ' ' :: decimal t.year))
  | 'C' => two (t.year.fdiv 100)
  | 'd' => two t.day
  | 'D' | 'x' => some (filledText m.joint date)
  | 'e' => number ' ' 2 t.day
  | 'F' =>
    some (filledText m.joint
      (Instant.yearText t.year ++ '-' :: digits t.month ++ '-' :: digits t.day))
  | 'g' => two (weekYear.fmod 100)
  | 'G' => number '0' 4 weekYear
  | 'H' => two t.hour
  | 'I' => two hour
  | 'j' => number '0' 3 (yearDay t + 1 : Nat)
  | 'k' => number ' ' 2 t.hour
  | 'l' => number ' ' 2 hour
  | 'm' => two t.month
  | 'M' => two t.minute
  | 'n' => some (filledText m ['\n'])
  | 'N' =>
    let width := m.width.getD 9
    let ds := (Instant.padded 9 t.nano).take width ++ List.replicate (width - 9) '0'
    some (match m.fill with
      | some '-' => if m.width.isSome then decimal (Text.number ds : Nat) else ds
      | some ' ' =>
        let bare := (ds.reverse.dropWhile (· = '0')).reverse
        pad true ds.length (if bare.isEmpty then ds.take 1 else bare)
      | _ => ds)
  | 'p' =>
    let m := if m.swaps then { m with swaps := false } else { m with upper := true }
    some (filledText m half)
  | 'P' => some (filledText { m with swaps := false, upper := false } half)
  | 'q' => number '0' 1 ((t.month - 1) / 3 + 1 : Nat)
  | 'r' =>
    some (filledText m.joint (digits hour ++ ':' :: digits t.minute ++ ':' :: digits t.second ++ ' '
      :: half.map Char.toUpper))
  | 'R' => some (filledText m clock)
  | 's' => number '0' 1 (days t * daySeconds + (t.hour * 3600 + t.minute * 60 + t.second : Nat))
  | 'S' => two t.second
  | 't' => some (filledText m ['\t'])
  | 'T' | 'X' => some (filledText m (clock ++ ':' :: digits t.second))
  | 'u' => number '0' 1 ((weekday t + 6) % 7 + 1 : Nat)
  | 'U' => two ((yearDay t + 7 - weekday t) / 7 : Nat)
  | 'V' => two week
  | 'w' => number '0' 1 (weekday t : Nat)
  | 'W' => two ((yearDay t + 7 - (weekday t + 6) % 7) / 7 : Nat)
  | 'y' => two (t.year.fmod 100)
  | 'Y' => number '0' 4 t.year
  | 'z' => some (filledText m (offset colons))
  | 'Z' => some (filledText m.joint (if m.swaps then "utc".toList else "UTC".toList))
  | '%' => some (filledText m ['%'])
  | _ => none

/-- The flags of a conversion in so many characters at most. -/
def flags : Nat → Manner → Bytes → Manner × Bytes
  | 0, m, cs => (m, cs)
  | n + 1, m, cs =>
    match cs with
    | '-' :: rest => flags n { m with fill := some '-' } rest
    | '_' :: rest => flags n { m with fill := some ' ' } rest
    | '0' :: rest => flags n { m with fill := some '0' } rest
    | '+' :: rest => flags n { m with fill := some '0' } rest
    | '^' :: rest => flags n { m with upper := true } rest
    | '#' :: rest => flags n { m with swaps := true } rest
    | cs => (m, cs)

/-- May a letter stand between the percent sign and a conversion? -/
def mayStand (letter conversion : Char) : Bool :=
  if letter = 'E' then "cCxXyY".toList.contains conversion
  else "deHIklmMSuUVwWy".toList.contains conversion

/-- A moment in a format that is at most so long, behind a text in reverse. -/
def writtenOnto (t : Instant) : Nat → Bytes → Bytes → Bytes
  | 0, done, _ => done.reverse
  | n + 1, done, cs =>
    match cs with
    | [] => done.reverse
    | '%' :: rest =>
      let (m, behind) := flags rest.length ⟨none, false, false, none⟩ rest
      let ds := behind.takeWhile Char.isDigit
      let m := if ds.isEmpty then m else { m with width := some (min 4096 (Text.number ds)) }
      let behind := behind.drop ds.length
      let (behind, stands) := match behind with
        | e :: c :: more =>
          if e = 'E' || e = 'O' then (c :: more, mayStand e c) else (behind, true)
        | _ => (behind, true)
      let colons := (behind.takeWhile (· = ':')).length
      let last := behind.drop colons
      match last with
      | c :: more =>
        match if stands && (colons = 0 || c = 'z') then part? t m colons c else none with
        | some text => writtenOnto t n (text.reverseAux done) more
        | none =>
          let whole := filledText m.joint (cs.take (cs.length - more.length))
          writtenOnto t n (whole.reverseAux done) more
      | [] => ((filledText m.joint cs).reverseAux done).reverse
    | c :: rest => writtenOnto t n (c :: done) rest

/-- A moment in a format. -/
def written (t : Instant) (format : Bytes) : Bytes := writtenOnto t (format.length + 1) [] format

end ActionTree.Sh.Calendar
