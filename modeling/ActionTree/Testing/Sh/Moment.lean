import ActionTree.Testing.Sh.Calendar

/-!
# Moments in words

A moment is told by a date, a time, a zone, the name of a day and steps from there, in any order:
`2024-01-15 10:20 +0200`, `15 Jan 2024`, `next month`, `3 days ago`, `@86400`. What is not told is
that of another moment, apart from the time of a day.

* `Moment.read?`: the seconds and nanoseconds up to a moment.
-/

namespace ActionTree.Sh.Moment

/-! ## Tokens -/

/-- A unit of steps. -/
inductive Measure where
  | year
  | month
  /-- So many days. -/
  | days (n : Int)
  /-- So many seconds. -/
  | seconds (n : Int)

/-- A part of a text. -/
inductive Token where
  /-- Digits without a sign. -/
  | digits (ds : Bytes)
  /-- Digits behind a sign. -/
  | signed (negative : Bool) (ds : Bytes)
  /-- A number with a fraction, in nanoseconds. -/
  | fraction (negative : Bool) (ds : Bytes) (nano : Nat)
  /-- The second half of the day, or the first one. -/
  | half (isSecond : Bool)
  | month (n : Nat)
  | day (n : Nat)
  | measure (m : Measure)
  /-- How many steps a word stands for. -/
  | ordinal (n : Int)
  /-- A day, by how many days it comes after this one. -/
  | shift (n : Int)
  | ago (sign : Int)
  /-- A zone, by how many seconds it is ahead of universal time. -/
  | zone (seconds : Int)
  /-- What stands between a date and a time. -/
  | joint
  | mark (c : Char)

/-- Words with what they stand for. -/
def words : List (String × Token) :=
  [("am", .half false), ("a.m.", .half false), ("pm", .half true), ("p.m.", .half true),
    ("year", .measure .year), ("month", .measure .month), ("fortnight", .measure (.days 14)),
    ("week", .measure (.days 7)), ("day", .measure (.days 1)), ("hour", .measure (.seconds 3600)),
    ("minute", .measure (.seconds 60)), ("min", .measure (.seconds 60)),
    ("second", .measure (.seconds 1)), ("sec", .measure (.seconds 1)), ("tomorrow", .shift 1),
    ("yesterday", .shift (-1)), ("today", .shift 0), ("now", .shift 0), ("last", .ordinal (-1)),
    ("this", .ordinal 0), ("next", .ordinal 1), ("first", .ordinal 1), ("third", .ordinal 3),
    ("fourth", .ordinal 4), ("fifth", .ordinal 5), ("sixth", .ordinal 6), ("seventh", .ordinal 7),
    ("eighth", .ordinal 8), ("ninth", .ordinal 9), ("tenth", .ordinal 10),
    ("eleventh", .ordinal 11), ("twelfth", .ordinal 12), ("ago", .ago (-1)), ("hence", .ago 1),
    ("tues", .day 2), ("wednes", .day 3), ("thur", .day 4), ("thurs", .day 4), ("sept", .month 9),
    ("gmt", .zone 0), ("ut", .zone 0), ("utc", .zone 0), ("wet", .zone 0), ("z", .zone 0),
    ("west", .zone 3600), ("bst", .zone 3600), ("cet", .zone 3600), ("met", .zone 3600),
    ("cest", .zone 7200), ("eet", .zone 7200), ("eest", .zone 10800), ("msk", .zone 10800),
    ("jst", .zone 32400), ("est", .zone (-18000)), ("edt", .zone (-14400)), ("cst", .zone (-21600)),
    ("cdt", .zone (-18000)), ("mst", .zone (-25200)), ("mdt", .zone (-21600)),
    ("pst", .zone (-28800)), ("pdt", .zone (-25200)), ("t", .joint)]

/-- The zone of a letter: from `a` on they are ahead, and from `n` on behind. -/
def letterZone? (c : Char) : Option Int :=
  let hours (n : Int) : Option Int := some (n * 3600)
  if 'a' ≤ c && c ≤ 'i' then hours ((c.toNat : Int) - 96)
  else if 'k' ≤ c && c ≤ 'm' then hours ((c.toNat : Int) - 97)
  else if 'n' ≤ c && c ≤ 'y' then hours (109 - (c.toNat : Int))
  else none

/-- What a word stands for: months and days may be cut to three letters, and measures may have an
`s` at their end. -/
def word? (cs : Bytes) : Option Token :=
  let name := cs.map Char.toLower
  let bare := if name.getLast? = some '.' then name.dropLast else name
  let isName (full : String) : Bool :=
    let full := full.toList.map Char.toLower
    bare = full || bare = full.take 3
  match Calendar.monthNames.findIdx? isName, Calendar.dayNames.findIdx? isName with
  | some i, _ => some (.month (i + 1))
  | none, some i => some (.day i)
  | none, none =>
    let find (cs : Bytes) : Option Token := (words.find? (·.1.toList = cs)).map (·.2)
    match find name with
    | some t => some t
    | none =>
      match name, name.getLast?, find name.dropLast with
      | [c], _, _ => (letterZone? c).map .zone
      | _, some 's', some (.measure m) => some (.measure m)
      | _, some '.', some t => some t
      | _, _, _ => none

/-- A text without what is between parentheses at its start. -/
def withoutRemark : Nat → Bytes → Bytes
  | _, [] => []
  | n, '(' :: rest => withoutRemark (n + 1) rest
  | n, ')' :: rest => if n ≤ 1 then rest else withoutRemark (n - 1) rest
  | n, c :: rest => if n = 0 then c :: rest else withoutRemark n rest

/-- The fraction of a number behind its point, in nanoseconds, and the text behind it. -/
def fraction? (cs : Bytes) : Option (Nat × Bytes) :=
  match cs with
  | '.' :: d :: rest | ',' :: d :: rest =>
    if !d.isDigit then none
    else
      let ds := (d :: rest).takeWhile Char.isDigit
      let nano := Text.number ((ds ++ List.replicate 9 '0').take 9)
      some (nano, (d :: rest).drop ds.length)
  | _ => none

/-- The tokens of a text that is at most so long, if it has such. -/
def tokens : Nat → Bytes → Option (List Token)
  | 0, _ => some []
  | n + 1, cs =>
    match cs.dropWhile Arith.isSpace with
    | [] => some []
    | c :: rest =>
      let number (sign : Option Bool) (cs : Bytes) : Option (List Token) := do
        let ds := cs.takeWhile Char.isDigit
        match fraction? (cs.drop ds.length) with
        | some (nano, behind) => return .fraction (sign.getD false) ds nano :: (← tokens n behind)
        | none =>
          let token : Token := match sign with
            | none => .digits ds
            | some negative => .signed negative ds
          return token :: (← tokens n (cs.drop ds.length))
      if c.isDigit then number none (c :: rest)
      else if c = '-' || c = '+' then
        match rest.dropWhile Arith.isSpace with
        | d :: more => if d.isDigit then number (some (c = '-')) (d :: more) else tokens n rest
        | [] => some []
      else if c.isAlpha then do
        let name := (c :: rest).takeWhile fun c => c.isAlpha || c = '.'
        return (← word? name) :: (← tokens n ((c :: rest).drop name.length))
      else if c = '(' then tokens n (withoutRemark 1 rest)
      else (tokens n rest).map (.mark c :: ·)

/-! ## What is told -/

/-- Steps from a moment. -/
structure Steps where
  years : Int
  months : Int
  days : Int
  seconds : Int
  nano : Int

/-- What a text tells of a moment. -/
structure Told where
  /-- The year, if it is told too, the month and the day. -/
  date : Option (Option Int × Int × Int)
  dates : Nat
  time : Option (Int × Int × Int × Nat)
  times : Nat
  /-- The difference from universal time in seconds. -/
  zone : Option Int
  zones : Nat
  day : Option (Int × Nat)
  daysTold : Nat
  steps : Option Steps
  /-- A whole moment: seconds and nanoseconds. -/
  whole : Option (Int × Nat)

/-- Nothing is told. -/
def Told.nothing : Told := ⟨none, 0, none, 0, none, 0, none, 0, none, none⟩

/-- The year that digits stand for: two of them are near the end of the last century. -/
def yearOf (ds : Bytes) : Int :=
  let n := Text.number ds
  if ds.length = 2 then (if n < 69 then n + 2000 else n + 1900) else n

/-- An hour of the day, if it is one. -/
def hourOf? (n : Nat) (half : Option Bool) : Option Int :=
  match half with
  | none => if n < 24 then some n else none
  | some isSecond =>
    if 1 ≤ n && n ≤ 12 then some (n % 12 + (if isSecond then 12 else 0) : Nat) else none

/-- The seconds that a zone is ahead: hours, or hours and minutes. -/
def zoneOf? (negative : Bool) (ds minutes : Bytes) : Option Int :=
  let n := Text.number ds
  let hours := if !minutes.isEmpty || ds.length ≤ 2 then n else n / 100
  let minutes := if minutes.isEmpty then (if ds.length ≤ 2 then 0 else n % 100)
    else Text.number minutes
  let total : Int := hours * 3600 + minutes * 60
  if 24 * 3600 < total then none else some (if negative then -total else total)

namespace Told

/-- Steps are told. -/
def withStep (t : Told) (n : Int) (m : Measure) (nano : Int) : Told :=
  let s := t.steps.getD ⟨0, 0, 0, 0, 0⟩
  let s := match m with
    | .year => { s with years := s.years + n }
    | .month => { s with months := s.months + n }
    | .days k => { s with days := s.days + n * k }
    | .seconds k => { s with seconds := s.seconds + n * k, nano := s.nano + nano }
  { t with steps := some s }

/-- All steps up to now go the other way. -/
def turned (t : Told) (sign : Int) : Told :=
  let turn (s : Steps) : Steps :=
    ⟨sign * s.years, sign * s.months, sign * s.days, sign * s.seconds, sign * s.nano⟩
  { t with steps := t.steps.map turn }

/-- A date is told. -/
def withDate (t : Told) (year : Option Int) (month day : Int) : Told :=
  { t with date := some (year, month, day), dates := t.dates + 1 }

/-- A time is told. -/
def withTime (t : Told) (hour minute second : Int) (nano : Nat) : Told :=
  { t with time := some (hour, minute, second, nano), times := t.times + 1 }

/-- A zone is told. -/
def withZone (t : Told) (seconds : Int) : Told :=
  { t with zone := some seconds, zones := t.zones + 1 }

end Told

/-- A number behind a sign. -/
def signedNumber (negative : Bool) (ds : Bytes) : Int :=
  let n : Int := Text.number ds
  if negative then -n else n

/-- A zone that may stand behind a time, and the tokens behind it. -/
def zoneBehind (t : Told) (rest : List Token) : Option (Told × List Token) :=
  match rest with
  | .signed negative ds :: .mark ':' :: .digits ms :: more =>
    (zoneOf? negative ds ms).map fun z => (t.withZone z, more)
  | .signed negative ds :: more => (zoneOf? negative ds []).map fun z => (t.withZone z, more)
  | rest => some (t, rest)

/-- A time behind its hour: minutes, seconds, the half of the day and a zone. -/
def timeBehind (t : Told) (hour : Bytes) (rest : List Token) : Option (Told × List Token) := do
  let finish (minute second : Int) (nano : Nat) (rest : List Token) :
      Option (Told × List Token) := do
    if !(minute < 60 && second ≤ 59) then none
    match rest with
    | .half isSecond :: more =>
      let h ← hourOf? (Text.number hour) (some isSecond)
      return (t.withTime h minute second nano, more)
    | rest =>
      let h ← hourOf? (Text.number hour) none
      zoneBehind (t.withTime h minute second nano) rest
  match rest with
  | .mark ':' :: .digits ms :: .mark ':' :: .digits ss :: more =>
    finish (Text.number ms) (Text.number ss) 0 more
  | .mark ':' :: .digits ms :: .mark ':' :: .fraction false ss nano :: more =>
    finish (Text.number ms) (Text.number ss) nano more
  | .mark ':' :: .digits ms :: more => finish (Text.number ms) 0 0 more
  | _ => none

/-- A number alone: a year, a date or a time. -/
def numberAlone (t : Told) (ds : Bytes) : Option Told :=
  let n := Text.number ds
  let yearMissing := t.date.any (·.1.isNone)
  if yearMissing && t.steps.isNone && (t.times ≠ 0 || 2 < ds.length) then
    some { t with date := t.date.map fun d => (some (yearOf ds), d.2) }
  else if 4 < ds.length then
    let year := yearOf (ds.take (ds.length - 4))
    some (t.withDate (some year) (n / 100 % 100 : Nat) (n % 100 : Nat))
  else do
    let (hour, minute) := if ds.length ≤ 2 then (n, 0) else (n / 100, n % 100)
    if 60 ≤ minute then none else return t.withTime (← hourOf? hour none) minute 0 0

/-- What the tokens at the start tell, beside what is known. -/
def item (t : Told) (ts : List Token) : Option (Told × List Token) :=
  let number (ds : Bytes) : Int := Text.number ds
  match ts with
  | [] => none
  | .digits hour :: .half isSecond :: rest => do
    return (t.withTime (← hourOf? (Text.number hour) (some isSecond)) 0 0 0, rest)
  | .digits hour :: .mark ':' :: rest => timeBehind t hour (.mark ':' :: rest)
  | .digits a :: .mark '/' :: .digits b :: .mark '/' :: .digits c :: rest =>
    if 4 ≤ a.length then some (t.withDate (some (number a)) (number b) (number c), rest)
    else some (t.withDate (some (yearOf c)) (number a) (number b), rest)
  | .digits a :: .mark '/' :: .digits b :: rest =>
    some (t.withDate none (number a) (number b), rest)
  | .digits y :: .signed true m :: .signed true d :: .joint :: .digits hour :: rest =>
    timeBehind (t.withDate (some (yearOf y)) (number m) (number d)) hour rest
  | .digits y :: .signed true m :: .signed true d :: rest =>
    some (t.withDate (some (yearOf y)) (number m) (number d), rest)
  | .digits d :: .month m :: .signed true y :: rest =>
    some (t.withDate (some (yearOf y)) m (number d), rest)
  | .digits d :: .month m :: .digits y :: .mark ':' :: rest =>
    some (t.withDate none m (number d), .digits y :: .mark ':' :: rest)
  | .digits d :: .month m :: .digits y :: rest =>
    some (t.withDate (some (yearOf y)) m (number d), rest)
  | .digits d :: .month m :: rest => some (t.withDate none m (number d), rest)
  | .month m :: .signed true d :: .signed true y :: rest =>
    some (t.withDate (some (yearOf y)) m (number d), rest)
  | .month m :: .digits d :: .mark ',' :: .digits y :: rest =>
    some (t.withDate (some (yearOf y)) m (number d), rest)
  | .month m :: .digits d :: rest => some (t.withDate none m (number d), rest)
  | .ordinal n :: .measure m :: rest => some (t.withStep n m 0, rest)
  | .digits ds :: .measure m :: rest => some (t.withStep (number ds) m 0, rest)
  | .signed negative ds :: .measure m :: rest =>
    some (t.withStep (signedNumber negative ds) m 0, rest)
  | .fraction negative ds nano :: .measure (.seconds 1) :: rest =>
    let part : Int := if negative then -nano else nano
    some (t.withStep (signedNumber negative ds) (.seconds 1) part, rest)
  | .measure m :: rest => some (t.withStep 1 m 0, rest)
  | .shift n :: rest => some (t.withStep n (.days 1) 0, rest)
  | .ago sign :: rest => if t.steps.isSome then some (t.turned sign, rest) else none
  | .ordinal n :: .day d :: rest =>
    some ({ t with day := some (n, d), daysTold := t.daysTold + 1 }, rest)
  | .digits ds :: .day d :: rest =>
    some ({ t with day := some (number ds, d), daysTold := t.daysTold + 1 }, rest)
  | .day d :: .mark ',' :: rest | .day d :: rest =>
    some ({ t with day := some (0, d), daysTold := t.daysTold + 1 }, rest)
  | .zone z :: .signed negative ds :: rest =>
    match rest with
    | .measure _ :: _ => some (t.withZone z, .signed negative ds :: rest)
    | _ => (zoneOf? negative ds []).map fun o => (t.withZone (z + o), rest)
  | .zone z :: rest => some (t.withZone z, rest)
  | .digits ds :: rest => (numberAlone t ds).map (·, rest)
  | _ => none

/-- What tokens tell, in so many steps at most. -/
def items : Nat → Told → List Token → Option Told
  | 0, t, _ => some t
  | n + 1, t, ts =>
    if ts.isEmpty then some t
    else match item t ts with
      | some (t, rest) => items n t rest
      | none => none

/-- What a text tells. -/
def told? (cs : Bytes) : Option Told := do
  let ts ← tokens (cs.length + 1) cs
  match ts with
  | [.mark '@', .digits ds] => return { Told.nothing with whole := some (Text.number ds, 0) }
  | [.mark '@', .signed negative ds] =>
    return { Told.nothing with whole := some (signedNumber negative ds, 0) }
  | [.mark '@', .fraction negative ds nano] =>
    let n := signedNumber negative ds
    return { Told.nothing with
      whole := some (if negative && nano ≠ 0 then (n - 1, 1000000000 - nano) else (n, nano)) }
  | ts =>
    let t ← items (ts.length + 1) Told.nothing ts
    if t.dates ≤ 1 && t.times ≤ 1 && t.zones ≤ 1 && t.daysTold ≤ 1 then return t else none

/-- The seconds and nanoseconds up to the moment that a text tells, beside a present one. -/
def read? (now : Int) (nano : Nat) (cs : Bytes) : Option (Int × Nat) := do
  let present := Instant.ofEpoch now nano
  let t ← told? cs
  match t.whole with
  | some found => return found
  | none =>
    let (year?, month, day) := t.date.getD (none, present.month, present.day)
    let year := year?.getD present.year
    let keepsTime := t.time.isNone && t.steps.isSome && t.dates = 0 && t.daysTold = 0
    let (hour, minute, second, nano) : Int × Int × Int × Nat :=
      if keepsTime then (present.hour, present.minute, present.second, nano)
      else t.time.getD (0, 0, 0, 0)
    if !(1 ≤ month && month ≤ 12 && 1 ≤ day && day ≤ Instant.daysIn year month.toNat) then none
    let start := Calendar.seconds year month day 0 0 0
    let weekday : Int := Calendar.weekday (Instant.ofEpoch start 0)
    let days : Int := match t.day with
      | some (n, d) =>
        if t.dates = 0 then
          ((d : Int) - weekday + 7) % 7 + 7 * (n - (if 0 < n && weekday ≠ d then 1 else 0))
        else 0
      | none => 0
    let s := t.steps.getD ⟨0, 0, 0, 0, 0⟩
    let total := Calendar.seconds (year + s.years) (month + s.months) (day + days + s.days)
      hour minute second - t.zone.getD 0 + s.seconds
    let nanos := (nano : Int) + s.nano
    return (total + nanos.fdiv 1000000000, (nanos.fmod 1000000000).toNat)

end ActionTree.Sh.Moment
