import ActionTree.Testing.Sh.Plan
import ActionTree.Testing.Sh.Scan.Basic
import ActionTree.Testing.Sh.Scan.Layout
import ActionTree.Testing.Sh.Scan.Table
import ActionTree.Testing.Sh.Scan.Pattern

/-!
# The state of a scanning program

A scanning program has variables, the record that it looks at, and files and commands that it reads
or writes. What it does may wait for the end of a command, so a computation has an outcome that is
either a value or a command with what is done when that has ended.

* `Scan.State`: all that a program knows.
* `Scan.Doing`: a computation.
* `State.record`, `State.field`: the record and its fields.
-/

namespace ActionTree.Sh.Scan

/-- A variable of the function that is called. -/
inductive Slot where
  | value (v : Value)
  | table (i : Nat)

instance : Inhabited Slot := ⟨.value .unset⟩

/-- What is written to: a file or a command. -/
structure Writer where
  name : Bytes
  isCommand : Bool
  /-- What was not written yet, the latest first. -/
  pending : List Bytes

/-- What is read from: a file or a command that has ended. -/
structure Source where
  name : Bytes
  isCommand : Bool
  rest : Bytes
  /-- What the end of the command counts as. -/
  ended : Int

/-- How far the input was read. -/
structure Input where
  /-- The argument that is looked at next. -/
  next : Nat
  /-- Is there a file that is read? -/
  isOpen : Bool
  rest : Bytes
  /-- How much of the input was read, if it has no end. -/
  endless : Option Nat
  /-- Was any file named? -/
  named : Bool
  ended : Bool

/-- All that a scanning program knows. -/
structure State where
  scene : Scene
  /-- The variables of the program. -/
  values : Array Value
  /-- The tables of the program, and behind them those of the functions that are called. -/
  tables : Array Table
  frame : Array Slot
  /-- How many variables there are in all functions that are called. -/
  depth : Nat
  record : Value
  fields : Array Value
  /-- Are the fields those of the record? -/
  isSplit : Bool
  /-- Is the record made of the fields? -/
  isJoined : Bool
  /-- What separates the fields of the record. -/
  separator : Bytes
  input : Input
  /-- Output that was not written yet, the latest first. -/
  pending : List Bytes
  /-- Those used last come first. -/
  writers : List Writer
  sources : List Source
  /-- For each rule, whether its range is open. -/
  ranges : Array Bool
  /-- Expressions that were made while the program runs. -/
  expressions : List (Bytes × Expression)
  /-- The present seed and the number made of it last. -/
  seed : Value
  random : Nat
  /-- How many rounds of loops may follow. -/
  left : Nat
  status : Nat

/-- Why a computation is left. -/
inductive Leave where
  | next
  | nextFile
  | leave
  | again
  | answer (v : Value)
  /-- The program stops reading. -/
  | stop
  /-- The program ends at once. -/
  | broken

/-- A command that a program waits for. -/
structure Request where
  command : Bytes
  input : Intake
  /-- Is what it prints read? -/
  collected : Bool

/-- What comes of a computation: a value, a reason to leave, or a command that is waited for. -/
inductive Outcome (α : Type) where
  | done (a : α) (s : State)
  | left (l : Leave) (s : State)
  | waits (r : Request) (s : State) (next : Ending → Bytes → State → Outcome α)

/-- A computation of a scanning program. -/
abbrev Doing (α : Type) := State → Outcome α

namespace Outcome

/-- Goes on with a value. -/
def bind {α β : Type} : Outcome α → (α → State → Outcome β) → Outcome β
  | done a s, f => f a s
  | left l s, _ => left l s
  | waits r s next, f => waits r s fun e text s => (next e text s).bind f

/-- Goes on where a computation was left. -/
def recover {α : Type} : Outcome α → (Leave → State → Outcome α) → Outcome α
  | done a s, _ => done a s
  | left l s, f => f l s
  | waits r s next, f => waits r s fun e text s => (next e text s).recover f

end Outcome

instance : Monad Doing where
  pure a := fun s => .done a s
  bind x f := fun s => (x s).bind f

namespace Doing

/-- Looks at the state. -/
def ask {α : Type} (f : State → α) : Doing α := fun s => .done (f s) s

/-- Changes the state. -/
def change (f : State → State) : Doing Unit := fun s => .done () (f s)

/-- Looks at the state and changes it. -/
def alter {α : Type} (f : State → α × State) : Doing α := fun s =>
  let (a, s) := f s
  .done a s

/-- Leaves the computation. -/
def leave {α : Type} (l : Leave) : Doing α := fun s => .left l s

/-- Goes on where a computation was left. -/
def orElse {α : Type} (x : Doing α) (f : Leave → Doing α) : Doing α := fun s => (x s).recover f

/-- Waits for a command. -/
def wait (r : Request) : Doing (Ending × Bytes) := fun s =>
  .waits r s fun e text s => .done (e, text) s

/-- Does what programs do. -/
def act {α : Type} (x : Act α) : Doing α := fun s =>
  match x.run s.scene with
  | (.ok a, scene) => .done a { s with scene := scene }
  | (.error n, scene) => .left .broken { s with scene := scene, status := n }

/-- Ends the program with a status. -/
def finish {α : Type} (status : Nat) : Doing α := fun s => .left .broken { s with status := status }

/-- The program would go on for ever. -/
def exhaust {α : Type} : Doing α := fun s =>
  .left .broken { s with scene := { s.scene with endless := true } }

/-- Writes a message and ends the program. -/
def quit {α : Type} (what : Bytes) : Doing α := do
  act (Act.warn what)
  finish 2

/-- Carries out rounds, at most so many, until one of them is the last. -/
def rounds (round : Doing Bool) : Nat → Doing Unit
  | 0, s => exhaust s
  | n + 1, s =>
    if s.left = 0 then exhaust s
    else match round { s with left := s.left - 1 } with
      | .done true s => rounds round n s
      | .done false s => .done () s
      | .left l s => .left l s
      | .waits r s next => .waits r s fun e text s => (next e text s).bind fun goesOn s =>
        if goesOn then rounds round n s else .done () s

/-- Does something with each of some things until it says that this is enough. -/
def forEach {α : Type} (f : α → Doing Bool) : List α → Doing Unit
  | [], s => .done () s
  | a :: as, s =>
    match f a s with
    | .done true s => forEach f as s
    | .done false s => .done () s
    | .left l s => .left l s
    | .waits r s next => .waits r s fun e text s => (next e text s).bind fun goesOn s =>
      if goesOn then forEach f as s else .done () s

end Doing

namespace State

/-! ## Variables -/

/-- A variable of the program as a value. -/
def setting (s : State) (name : String) : Value := s.values[Scan.setting name]?.getD .unset

/-- How numbers become texts. -/
def format (s : State) (name : String) : NumberFormat :=
  match s.setting name with
  | .unset | .text ['%', '.', '6', 'g'] => .usual
  | v => (NumberFormat.ofText? (v.toText .usual)).getD .usual

/-- The usual way in which numbers become texts. -/
def conversion (s : State) : NumberFormat := s.format "CONVFMT"

/-- A variable of the program as a text. -/
def text (s : State) (name : String) : Bytes := (s.setting name).toText s.conversion

/-- The state in which a variable of the program is set. -/
def withSetting (s : State) (name : String) (v : Value) : State :=
  { s with values := s.values.setIfInBounds (Scan.setting name) v }

/-! ## Texts and expressions -/

/-- What separates fields. -/
inductive Separator where
  | blanks
  | each
  | char (c : Char)
  | expression (e : Expression)

/-- The parts of a text between fits of an expression that are not empty. -/
def partsBy (e : Expression) (cs : Bytes) : List Bytes :=
  let s : Subject := ⟨cs.toArray, false, false⟩
  let fits := (e.allFits s (cs.length + 2) 0 none).filter fun f => f.1 < f.2
  let rec cut : Nat → List (Nat × Nat) → List Bytes
    | start, [] => [(s.chars.extract start s.chars.size).toList]
    | start, (i, j) :: rest => (s.chars.extract start i).toList :: cut j rest
  cut 0 fits

/-- The words between blanks, at most so many. -/
def wordsOf : Nat → Bytes → List Bytes
  | 0, _ => []
  | n + 1, cs =>
    match cs.dropWhile isBlank with
    | [] => []
    | cs => cs.takeWhile (!isBlank ·) :: wordsOf n (cs.dropWhile (!isBlank ·))

/-- The parts of a text. -/
def parts (separator : Separator) (cs : Bytes) : List Bytes :=
  if cs.isEmpty then []
  else match separator with
    | .blanks => wordsOf cs.length cs
    | .each => cs.map ([·])
    | .char c => splitAt c cs
    | .expression e => partsBy e cs

/-- The first fit of an expression from a place on that is not empty. -/
def firstLong (e : Expression) (s : Subject) : Nat → Nat → Option (Nat × Nat)
  | 0, _ => none
  | n + 1, start =>
    match e.search s start with
    | some (i, f) => if i < f.place then some (i, f.place) else firstLong e s n (i + 1)
    | none => none

/-- The first record of a text and the text behind it, when a text separates records: a character
for itself, no text for empty lines, and else an expression. -/
def cutRecord (separator : Bytes) (e : Expression) (cs : Bytes) : Option (Bytes × Bytes) :=
  match separator with
  | [] =>
    let cs := cs.dropWhile (· = '\n')
    if cs.isEmpty then none
    else
      let (record, rest) := paragraph [] cs
      some (record, rest.dropWhile (· = '\n'))
  | [c] =>
    if cs.isEmpty then none
    else
      let (record, rest) := cs.span (· ≠ c)
      some (record, rest.drop 1)
  | _ =>
    if cs.isEmpty then none
    else
      let s : Subject := ⟨cs.toArray, false, false⟩
      match firstLong e s (cs.length + 2) 0 with
      | some (i, j) => some (cs.take i, cs.drop j)
      | none => some (cs, [])
where
  /-- A text up to an empty line, behind a text in reverse. -/
  paragraph : Bytes → Bytes → Bytes × Bytes
    | done, [] => (done.reverse, [])
    | done, ['\n'] => (done.reverse, [])
    | done, '\n' :: '\n' :: rest => (done.reverse, rest)
    | done, c :: rest => paragraph (c :: done) rest

/-! ## The record -/

/-- The state with a new record. -/
def withRecord (s : State) (v : Value) : State :=
  { s with record := v, isSplit := false, isJoined := true, separator := s.text "FS" }

/-- The state with new fields of the record that it has. -/
def withFields (s : State) (parts : List Bytes) : State :=
  { s with fields := (parts.map Value.given).toArray, isSplit := true }

/-- The record that the fields make. -/
def joined (s : State) : State :=
  if s.isJoined then s
  else
    let f := s.conversion
    let between := s.text "OFS"
    let text := between.intercalate (s.fields.toList.map (·.toText f))
    { s with record := .text text, isJoined := true }

/-- A field that the record has. -/
def field (s : State) (i : Nat) : Value := s.fields[i - 1]?.getD (.text [])

/-- The state with another field. -/
def withField (s : State) (i : Nat) (v : Value) : State :=
  let missing := i - s.fields.size
  let fields := s.fields ++ (Array.replicate missing (Value.text []))
  { s with fields := fields.setIfInBounds (i - 1) v, isJoined := false }

/-- The state with so many fields. -/
def withFieldCount (s : State) (n : Nat) : State :=
  let missing := n - s.fields.size
  { s with fields := s.fields.extract 0 n ++ (Array.replicate missing (Value.text []))
           isJoined := false }

end State

end ActionTree.Sh.Scan
