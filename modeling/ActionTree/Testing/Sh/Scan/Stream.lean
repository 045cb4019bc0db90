import ActionTree.Testing.Sh.Scan.State
import ActionTree.Testing.Sh.Scan.Token

/-!
# Input and output of scanning programs

Records come from the files that are named as arguments, from other files and from commands; text
goes to the output, to files and to commands. A command that is written to is started when nothing
more is written.

* `Stream.nextRecord`: the next record of the input.
* `Stream.recordFrom`: the next record of a file or a command.
* `Stream.write`, `Stream.close`, `Stream.closeAll`: output.
-/

namespace ActionTree.Sh.Scan

open State

/-- Says what is wrong, and where, and ends the program. -/
def Doing.fault {α : Type} (what : Bytes) : Doing α := do
  let place ← Doing.ask fun s =>
    "\n\tFILENAME=\"".toList ++ s.text "FILENAME" ++ "\" FNR=".toList ++ s.text "FNR"
      ++ " NR=".toList ++ s.text "NR"
  Doing.quit ("run time error: ".toList ++ what ++ place)

/-- The expression that a text is. -/
def Doing.expression (cs : Bytes) : Doing Expression := do
  match ← Doing.ask fun s => s.expressions.find? (·.1 = cs) with
  | some (_, e) => return e
  | none =>
    match Expression.scanned cs with
    | .ok e => do
      Doing.change fun s => { s with expressions := (cs, e) :: s.expressions.take 30 }
      return e
    | .error f => Doing.fault (f.message cs)

/-- What a text that separates fields means: a blank stands for white space, no text for nothing,
and another character for itself. -/
def Doing.separator (cs : Bytes) : Doing Separator := do
  match cs with
  | [] => return .each
  | [' '] => return .blanks
  | [c] => return .char c
  | cs => return .expression (← Doing.expression cs)

/-- Cuts the record into fields if that was not done yet. -/
def Doing.split : Doing Unit := do
  if !(← Doing.ask (·.isSplit)) then
    let separator ← Doing.separator (← Doing.ask (·.separator))
    Doing.change fun s => s.withFields (State.parts separator (s.record.toText s.conversion))

namespace Stream

/-! ## Output -/

/-- The names of the output. -/
def outputNames : List String := ["/dev/stdout", "-"]

/-- Writes what is pending for the output. -/
def flushOutput : Doing Unit := do
  let text ← Doing.ask fun s => s.pending.reverse.flatten
  if !text.isEmpty then
    Doing.change fun s => { s with pending := [] }
    match ← Doing.ask (·.scene.outputTrouble) with
    | some t =>
      Doing.quit ("close failed on file \"/dev/stdout\" (".toList ++ t.message ++ [')'])
    | none => Doing.act (Act.put text)

/-- Writes a text to a file. -/
def append (name text : Bytes) : Doing Unit := do
  if let some t ← Doing.act (Act.writeFile true name text) then
    Doing.quit ("close failed on file \"".toList ++ name ++ "\" (".toList ++ t.message ++ [')'])

/-- Writes what is pending for a file. -/
def flushWriter (w : Writer) : Doing Unit := do
  if !w.isCommand && !w.pending.isEmpty then append w.name w.pending.reverse.flatten

/-- Writes what is pending for the output and for files. -/
def flushAll : Doing Unit := do
  flushOutput
  let writers ← Doing.ask (·.writers)
  Doing.change fun s => { s with
    writers := s.writers.map fun w => if w.isCommand then w else { w with pending := [] } }
  writers.forM flushWriter

/-- What the end of a command counts as: its status, or more than 256 if a signal killed it. -/
def endingOf : Ending → Int
  | .status n => n
  | .signal n => 256 + n
  | .late | .missing _ => 127

/-- Starts a command and waits for its end. -/
def start (command : Bytes) (input : Intake) : Doing Int := do
  return endingOf (← Doing.wait ⟨command, input, false⟩).1

/-- Writes all that is pending for a writer, which is then closed. -/
def finishWriter (w : Writer) : Doing Int := do
  if w.isCommand then start w.name (.text w.pending.reverse.flatten)
  else
    flushWriter w
    return 0

/-- Opens a file or a command for output. -/
def openWriter (opening : Opening) (name : Bytes) : Doing Unit := do
  if opening = .command then flushOutput
  else if let some t ← Doing.act (Act.writeFile (opening = .finish) name []) then
    Doing.quit ("cannot open \"".toList ++ name ++ "\" for output (".toList ++ t.message ++ [')'])
  Doing.change fun s => { s with writers := ⟨name, opening = .command, []⟩ :: s.writers }

/-- Writes a text to the output, to a file or to a command. -/
def write (target : Option (Opening × Bytes)) (text : Bytes) : Doing Unit := do
  let plain : Doing Unit := Doing.change fun s => { s with pending := text :: s.pending }
  match target with
  | none => plain
  | some (opening, name) =>
    let isCommand := opening = .command
    if !isCommand && outputNames.contains (String.ofList name) then plain
    else if !isCommand && name = "/dev/stderr".toList then Doing.act (Act.putMessage text)
    else
      let isIt (w : Writer) : Bool := w.name = name && w.isCommand = isCommand
      if !(← Doing.ask fun s => s.writers.any isIt) then openWriter opening name
      Doing.change fun s =>
        match s.writers.find? isIt with
        | some w => { s with
          writers := { w with pending := text :: w.pending } :: s.writers.filter (!isIt ·) }
        | none => s

/-- Closes what has a name, and says how it ended; -1 if there is nothing of this name. -/
def close (name : Bytes) : Doing Int := do
  let writers ← Doing.ask fun s => s.writers.filter (·.name = name)
  let sources ← Doing.ask fun s => s.sources.filter (·.name = name)
  Doing.change fun s => { s with
    writers := s.writers.filter (·.name ≠ name), sources := s.sources.filter (·.name ≠ name) }
  let mut result : Int := -1
  for w in writers do
    result ← finishWriter w
  for s in sources do
    result := s.ended
  return result

/-- Closes all that is written to, what was used last first, and then the output. -/
def closeAll : Doing Unit := do
  let writers ← Doing.ask (·.writers)
  Doing.change fun s => { s with writers := [] }
  for w in writers do
    discard (finishWriter w)
  flushOutput

/-! ## Records -/

/-- What separates records. -/
def recordSeparator : Doing (Bytes × Expression) := do
  let cs ← Doing.ask fun s => s.text "RS"
  if cs.length ≤ 1 then return (cs, .empty) else return (cs, ← Doing.expression cs)

/-- The next record of a file or a command, if there is one: nothing if it cannot be read. -/
def recordFrom (isCommand : Bool) (name : Bytes) : Doing (Option (Option Bytes)) := do
  let isIt (s : Source) : Bool := s.name = name && s.isCommand = isCommand
  let source? ← match ← Doing.ask fun s => s.sources.find? isIt with
    | some source => pure (some source)
    | none =>
      if isCommand then do
        flushOutput
        let (ended, text) ← Doing.wait ⟨name, .shared, true⟩
        pure (some ⟨name, true, text, endingOf ended⟩)
      else
        match ← Doing.act (Act.read (if name = "/dev/stdin".toList then ['-'] else name)) with
        | .ok text => pure (some ⟨name, false, text, 0⟩)
        | .error .isDirectory => Doing.quit "read error (Is a directory)".toList
        | .error _ => pure none
  match source? with
  | none => return none
  | some source => do
    let (separator, e) ← recordSeparator
    let (record, rest) := match cutRecord separator e source.rest with
      | some (record, rest) => (some record, rest)
      | none => (none, [])
    Doing.change fun s => { s with
      sources := { source with rest := rest } :: s.sources.filter (!isIt ·) }
    return some record

/-- A record cannot have more fields than this in the time there is. -/
def mostFields : Nat := 4000000

/-- Changes how many fields the record has. -/
def resize (v : Value) : Doing Unit := do
  let x := v.toNumber
  if x.isInfinite || x.whole < 0 then Doing.fault "negative value assigned to NF".toList
  else if mostFields < x.whole then Doing.exhaust
  else
    Doing.split
    Doing.change fun s => s.withFieldCount x.whole.toNat

/-- Assigns a text from outside to the variable of a name, if the program has one. -/
def assign (p : Program) (name value : Bytes) : Doing Unit := do
  let v : Value := .given (Lexing.unescape value)
  if let some i := p.names.idxOf? name then
    if i = setting "NF" then resize v
    else Doing.change fun s => { s with values := s.values.setIfInBounds i v }

/-- The name and the value that an argument assigns, if it is an assignment. -/
def assignment? (arg : Bytes) : Option (Bytes × Bytes) :=
  let name := arg.takeWhile (· ≠ '=')
  match arg.drop name.length with
  | '=' :: value => if Lexing.isName name then some (name, value) else none
  | _ => none

/-- Opens the input under a name. -/
def openInput (name : Bytes) (text : Bytes) (endless : Option Nat) : Doing Unit :=
  Doing.change fun s =>
    { s.withSetting "FILENAME" (.given name) |>.withSetting "FNR" (.ofInt 0) with
      input := { s.input with isOpen := true, rest := text, endless := endless, named := true } }

/-- Opens what the program reads if no file is named. -/
def openDefault (name : Bytes) : Doing Unit := do
  let scene ← Doing.ask (·.scene)
  match scene.input with
  | .error t => Doing.quit ("read error (".toList ++ t.message ++ [')'])
  | .ok text =>
    if scene.inputEndless then openInput name text (some 0)
    else
      discard (Doing.act Act.readInput)
      openInput name text none

/-- Opens the file that an argument names. -/
def openFile (name : Bytes) : Doing Unit := do
  if name = ['-'] || name = "/dev/stdin".toList then openDefault name
  else match ← Doing.act (Act.read name) with
    | .ok text => openInput name text none
    | .error .isDirectory => Doing.quit "read error (Is a directory)".toList
    | .error t =>
      Doing.quit ("cannot open \"".toList ++ name ++ "\" (".toList ++ t.message ++ [')'])

/-- Opens the next file of so many arguments at most, and says whether there is one. -/
def openNext (p : Program) : Nat → Doing Bool
  | 0 => do
    if ← Doing.ask (·.input.named) then return false
    openDefault ['-']
    return true
  | n + 1 => do
    let i ← Doing.ask (·.input.next)
    let count ← Doing.ask fun s => (s.setting "ARGC").toNumber.whole
    if count ≤ i then openNext p 0
    else
      Doing.change fun s => { s with input := { s.input with next := i + 1 } }
      let arg ← Doing.ask fun s =>
        ((s.tables[setting "ARGV"]?.getD default).get (.whole i)).toText s.conversion
      if arg.isEmpty then openNext p n
      else match assignment? arg with
        | some (name, value) => do
          assign p name value
          openNext p n
        | none => do
          openFile arg
          return true

/-- The next record of the input, if there is one; at most so many files are opened. -/
def nextRecordIn (p : Program) : Nat → Doing (Option Bytes)
  | 0 => return none
  | n + 1 => do
    if ← Doing.ask (·.input.ended) then return none
    if !(← Doing.ask (·.input.isOpen)) then
      let count ← Doing.ask fun s => (s.setting "ARGC").toNumber.whole.toNat
      if !(← openNext p (count + 1)) then
        Doing.change fun s => { s with input := { s.input with ended := true } }
        return none
    let (separator, e) ← recordSeparator
    let input ← Doing.ask (·.input)
    match cutRecord separator e input.rest with
    | some (record, rest) => do
      Doing.change fun s => { s with input := { s.input with
        rest := rest
        endless := s.input.endless.map (· + record.length + 1) } }
      return some record
    | none => do
      if input.endless.isSome then Doing.exhaust
      Doing.change fun s => { s with input := { s.input with isOpen := false } }
      nextRecordIn p n

/-- The next record of the input, if there is one. It is counted. -/
def nextRecord (p : Program) : Doing (Option Bytes) := do
  let count ← Doing.ask fun s => (s.setting "ARGC").toNumber.whole.toNat
  let record ← nextRecordIn p (count + 2)
  if record.isSome then
    Doing.change fun s =>
      let more (name : String) : Value := .number ((s.setting name).toNumber.add (.ofInt 1))
      (s.withSetting "NR" (more "NR")).withSetting "FNR" (more "FNR")
  return record

/-- Leaves the file that is read. -/
def leaveFile : Doing Unit :=
  Doing.change fun s => { s with input := { s.input with isOpen := false, rest := [] } }

/-- Says how much of an input without an end was read. -/
def settleInput : Doing Unit := do
  let input ← Doing.ask (·.input)
  if let some used := input.endless then
    Doing.act (Act.take used input.rest)

end Stream

end ActionTree.Sh.Scan
