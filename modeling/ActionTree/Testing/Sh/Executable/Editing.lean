import ActionTree.Testing.Sh.Edit.Editor
import ActionTree.Testing.Sh.Edit.Reader

/-!
# Editing lines

`sed` edits the lines of files by a script.

* `Editing.sed`: the program.
-/

namespace ActionTree.Sh.Editing

open Edit

/-- The names of the options. -/
def names : List (String × ValueUse × Char) :=
  [("binary", .never, 'b'), ("regexp-extended", .never, 'E'), ("debug", .never, '\x10'),
    ("in-place", .attached, 'i'), ("expression", .always, 'e'), ("file", .always, 'f'),
    ("line-length", .always, 'l'), ("null-data", .never, 'z'), ("zero-terminated", .never, 'z'),
    ("quiet", .never, 'n'), ("posix", .never, 'p'), ("silent", .never, 'n'),
    ("sandbox", .never, '\x11'), ("separate", .never, 's'), ("unbuffered", .never, 'u'),
    ("follow-symlinks", .never, '\x12')]

/-- What is said of the right use. -/
def usage : Bytes :=
  ("Usage: sed [OPTION]... \x7bscript-only-if-no-other-script\x7d [input-file]...\n").toList

/-- The status of a wrong use or script. -/
def misused : Nat := 1

/-- The status of what cannot be done. -/
def failed : Nat := 4

/-- The parts of the script that options give, the first of which is counted as the given number. -/
def parts (k : Nat) : List (Char × Option Bytes) → Act (List (Origin × Bytes))
  | [] => return []
  | ('e', value) :: rest => return (.argument k, value.getD []) :: (← parts (k + 1) rest)
  | ('f', value) :: rest => do
    let name := value.getD []
    match ← Act.read name with
    | .ok text => do
      let text := if text.getLast? = some '\n' then text.dropLast else text
      return (.file name, text) :: (← parts k rest)
    | .error t => do
      Act.warn ("couldn't open file ".toList ++ name ++ ": ".toList ++ t.message)
      Act.finish failed
  | _ :: rest => parts k rest

/-- The label of a jump that leads nowhere, if there is one. -/
def lostLabel? (s : Script) : Option Bytes :=
  s.steps.toList.findSome? fun step => match step.command with
    | .jump _ label => if (s.target? label).isNone then some label else none
    | _ => none

/-- Edits the lines of files by a script. -/
def sed : Executable := fun args => do
  Act.setFailing misused
  let o ← match Options.readIn ⟨"bsnrzuEe:f:l:i::V:", names, true⟩ (args.length + 1) args with
    | .ok o => pure o
    | .error e => do
      Act.warn e.message
      Act.putMessage usage
      Act.finish misused
  if o.has '\x01' || o.has '\x02' then Act.finish 0
  let given ← parts 1 o.given
  let (given, files) ← match given, o.operands with
    | [], [] => do
      Act.putMessage usage
      Act.finish misused
    | [], text :: files => pure ([(Origin.argument 1, text)], files)
    | given, files => pure (given, files)
  let script ← match readAll (o.has 'E' || o.has 'r') given with
    | .ok s => pure s
    | .error e => Act.quit e.message
  if let some label := lostLabel? script then
    Act.warn ("can't find label for jump to \x60".toList ++ label ++ ['\x27'])
    Act.finish failed
  for name in script.files do
    if let some t ← Act.writeFile false name [] then
      Act.warn ("couldn't open file ".toList ++ name ++ ": ".toList ++ t.message)
      Act.finish failed
  let inPlace : Option Bytes := if o.has 'i' then some ((o.value? 'i').getD []) else none
  if inPlace.isSome && files.isEmpty then
    Act.warn "no input files".toList
    Act.finish failed
  let width := match o.value? 'l' with
    | some text => ((Arith.signed? (Arith.digits 10 0) text).map (·.1.toNat)).getD 0
    | none => 70
  let manner : Manner :=
    { script := script, silent := o.has 'n' || script.silent
      separate := o.has 's' || inPlace.isSome, inPlace := inPlace
      feed := if o.has 'z' then '\x00' else '\n', width := width }
  Edit.run manner (if files.isEmpty then [inputName] else files)

end ActionTree.Sh.Editing
