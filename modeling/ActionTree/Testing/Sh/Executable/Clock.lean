import ActionTree.Testing.Sh.Executable.Options
import ActionTree.Testing.Sh.Moment

/-!
# The time

`date` prints a moment, the present one or one that is told in words, in a format.

* `Clock.date`: the program.
-/

namespace ActionTree.Sh.Clock

/-- The format of a moment, unless one is given. -/
def usualFormat : Bytes := "%a %b %e %H:%M:%S %Z %Y".toList

/-- The formats of an option by the words that it takes. -/
abbrev Formats := List (String × String)

/-- Formats with a letter between date and time. -/
def isoFormats : Formats :=
  [("hours", "%Y-%m-%dT%H%:z"), ("minutes", "%Y-%m-%dT%H:%M%:z"), ("date", "%Y-%m-%d"),
    ("seconds", "%Y-%m-%dT%H:%M:%S%:z"), ("ns", "%Y-%m-%dT%H:%M:%S,%N%:z")]

/-- Formats with a blank between date and time. -/
def spacedFormats : Formats :=
  [("date", "%Y-%m-%d"), ("seconds", "%Y-%m-%d %H:%M:%S%:z"), ("ns", "%Y-%m-%d %H:%M:%S.%N%:z")]

/-- The format of mails. -/
def mailFormat : Bytes := "%a, %d %b %Y %H:%M:%S %z".toList

/-- The format that a word stands for, which may be cut short. -/
def formatOf (option : String) (formats : Formats) (word : Bytes) : Act Bytes := do
  match formats.filter fun f => word.isPrefixOf f.1.toList with
  | [f] => return f.2.toList
  | _ =>
    Act.warn ("invalid argument ".toList ++ visibly word ++ (" for '--" ++ option ++ "'").toList)
    Act.putMessage (fed "Valid arguments are:".toList
      ++ formats.flatMap fun f => fed ("  - '" ++ f.1 ++ "'").toList)
    Act.refer

/-- The format that an option asks for, if it does. -/
def format? (o : Char × Option Bytes) : Act (Option Bytes) := do
  match o with
  | ('R', _) => return some mailFormat
  | ('I', none) => return some (← formatOf "iso-8601" isoFormats "date".toList)
  | ('I', some word) => return some (← formatOf "iso-8601" isoFormats word)
  | ('\x03', word) => return some (← formatOf "rfc-3339" spacedFormats (word.getD []))
  | _ => return none

/-- The present time: seconds and nanoseconds. -/
def now : Act (Int × Nat) := do
  let clock := (← get).clock
  return (Calendar.origin + (clock / 1000 : Nat), clock % 1000 * 1000000)

/-- The moment that a text tells; for one that tells none a message is written. -/
def told (text : Bytes) : Act (Option (Int × Nat)) := do
  let (seconds, nano) ← now
  let found := Moment.read? seconds nano text
  if found.isNone then Act.complain ("invalid date ".toList ++ visibly text)
  return found

/-- Prints a moment. -/
def printMoment (format : Bytes) (m : Int × Nat) : Act Unit :=
  Act.put (fed (Calendar.written (Instant.ofEpoch m.1 m.2) format))

/-- When the file at a path was written. -/
def written (path : Bytes) : Act (Int × Nat) := do
  match ← Act.find path with
  | .error t => Act.quit (Act.unreadable path t)
  | .ok n =>
    let time := ((← get).disk.node n).time
    return (Calendar.origin + (time / 1000 : Nat), time % 1000 * 1000000)

/-- Is a text a time in digits: month, day, hour and minute, perhaps a year, perhaps seconds? -/
def isSetting (text : Bytes) : Bool :=
  let ds := text.takeWhile (· ≠ '.')
  let seconds := text.drop ds.length
  ds.all Char.isDigit && [8, 10, 12].contains ds.length
    && (seconds.isEmpty || (seconds.length = 3 && (seconds.drop 1).all Char.isDigit))

/-- What is said when the time would be set. -/
def unsettable : Bytes := "cannot set date: Operation not permitted".toList

/-- Prints the time. -/
def date : Executable := withOptions "d:f:I::r:Rs:u"
  [("date", .always, 'd'), ("debug", .never, '\x04'), ("file", .always, 'f'),
    ("iso-8601", .attached, 'I'), ("reference", .always, 'r'), ("resolution", .never, '\x05'),
    ("rfc-3339", .always, '\x03'), ("rfc-email", .never, 'R'), ("set", .always, 's'),
    ("uct", .never, 'u'), ("utc", .never, 'u'), ("universal", .never, 'u')] fun o => do
  let mut format : Option Bytes := none
  for given in o.given do
    if let some f ← format? given then
      if format.isSome then Act.quit "multiple output formats specified".toList
      format := some f
  if 1 < (['d', 'f', 'r', '\x05'].filter o.has).length then
    Act.misuse "the options to specify dates for printing are mutually exclusive".toList
  let mut setting : Option Bytes := none
  for operand in o.operands.take 1 do
    match operand with
    | '+' :: text =>
      if format.isSome then Act.quit "multiple output formats specified".toList
      format := some text
    | text =>
      if o.has 'd' || o.has 'f' || o.has 'r' then
        Act.misuse ("the argument ".toList ++ visibly text
          ++ " lacks a leading '+';\n".toList
          ++ "when using an option to specify date(s), any non-option\n".toList
          ++ "argument must be a format string beginning with '+'".toList)
      setting := some text
  if let some extra := o.operands[1]? then Act.misuse ("extra operand ".toList ++ visibly extra)
  let layout := format.getD usualFormat
  if let some text := setting then
    if !isSetting text then Act.quit ("invalid date ".toList ++ visibly text)
  if let some text := o.value? 's' then
    match ← told text with
    | none => Act.finish 1
    | some m =>
      Act.complain unsettable
      printMoment layout m
      Act.finish 1
  if setting.isSome then Act.complain unsettable
  match o.value? 'f', o.value? 'd', o.value? 'r' with
  | some path, _, _ =>
    match ← Act.read path with
    | .error t => Act.quit (Act.unreadable path t)
    | .ok text =>
      for line in linesOf text do
        if let some m ← told line then printMoment layout m
  | none, some text, _ => if let some m ← told text then printMoment layout m
  | none, none, some path => printMoment layout (← written path)
  | none, none, none =>
    if o.has '\x05' then Act.put (fed "0.000000001".toList) else printMoment layout (← now)

end ActionTree.Sh.Clock
