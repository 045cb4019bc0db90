import ActionTree.Testing.Sh.Scan.Evaluation
import ActionTree.Testing.Sh.Scan.Reader

/-!
# Scanning records

`awk` carries out a scanning program for the records of files.

* `Scanning.awk`: the program.
-/

namespace ActionTree.Sh.Scanning

open ActionTree.Sh.Scan

/-- What is said of the right use. -/
def usage : Bytes :=
  ("Usage: mawk [Options] [Program] [file ...]\n\nProgram:\n"
    ++ "    The -f option value is the name of a file containing program text.\n"
    ++ "    If no -f option is given, a \"--\" ends option processing; the following\n"
    ++ "    parameters are the program text.\n\nOptions:\n"
    ++ "    -f program-file  Program  text is read from file instead of from the\n"
    ++ "                     command-line.  Multiple -f options are accepted.\n"
    ++ "    -F value         sets the field separator, FS, to value.\n"
    ++ "    -v var=value     assigns value to program variable var.\n"
    ++ "    --               unambiguous end of options.\n\n"
    ++ "    Implementation-specific options are prefixed with \"-W\".  They can be\n"
    ++ "    abbreviated:\n\n"
    ++ "    -W version       show version information and exit.\n"
    ++ "    -W compat        pre-POSIX 2001.\n"
    ++ "    -W dump          show assembler-like listing of program and exit.\n"
    ++ "    -W help          show this message and exit.\n"
    ++ "    -W interactive   set unbuffered output, line-buffered input.\n"
    ++ "    -W exec file     use file as program as well as last option.\n"
    ++ "    -W posix         stricter POSIX checking.\n"
    ++ "    -W random=number set initial random seed.\n"
    ++ "    -W sprintf=number adjust size of sprintf buffer.\n"
    ++ "    -W usage         show this message and exit.\n").toList

/-- What a call asks for. -/
structure Wanted where
  /-- The texts of the program, each with the file that it comes from. -/
  texts : List (Bytes × Bytes)
  separator : Option Bytes
  /-- Variables with their values. -/
  assigned : List (Bytes × Bytes)
  operands : List Bytes

/-- Reads the options of a call, of which there are at most so many. -/
def read : Nat → List Bytes → Wanted → Act Wanted
  | 0, _, w => return w
  | n + 1, args, w => do
    match args with
    | ['-', '-'] :: rest => return { w with operands := rest }
    | ('-' :: '-' :: name) :: _ =>
      if ["version", "help", "usage"].contains (String.ofList name) then
        if name ≠ "version".toList then Act.put usage
        Act.finish 0
      else Act.quit ("not an option: --".toList ++ name)
    | ('-' :: c :: attached) :: rest =>
      let (value?, rest) : Option Bytes × List Bytes := match attached, rest with
        | [], value :: rest => (some value, rest)
        | [], [] => (none, [])
        | attached, rest => (some attached, rest)
      if !"fFvW".toList.contains c then Act.quit ("not an option: -".toList ++ c :: attached)
      match value? with
      | none => Act.quit ("option -".toList ++ c :: " lacks argument".toList)
      | some value =>
        match c with
        | 'f' =>
          match ← Act.read value with
          | .ok text => read n rest { w with texts := w.texts ++ [(value, text)] }
          | .error t =>
            Act.quit ("cannot open \"".toList ++ value ++ "\" (".toList ++ t.message ++ [')'])
        | 'F' => read n rest { w with separator := some value }
        | 'v' =>
          match Stream.assignment? value with
          | some a => read n rest { w with assigned := w.assigned ++ [a] }
          | none => Act.quit ("improper assignment: -v ".toList ++ value)
        | _ => do
          if ["version", "help", "usage"].any fun name => value.isPrefixOf name.toList then
            if value.head? ≠ some 'v' then Act.put usage
            Act.finish 0
          Act.warn ("vacuous option: -W \"".toList ++ value ++ ['"'])
          read n rest w
    | args => return { w with operands := args }

/-- What is said of a fault in the text of a file, or of an argument. -/
def messageOf (file : Option Bytes) (f : Scan.Fault) : Bytes :=
  let line := decimal f.line
  match f.flaw, file with
  | .unexpected _, _ => line ++ ": ".toList ++ f.flaw.message
  | _, some file => file ++ ": line ".toList ++ line ++ ": ".toList ++ f.flaw.message
  | _, none => "line ".toList ++ line ++ ": ".toList ++ f.flaw.message

/-- The values that variables have when a program starts. -/
def initialValues : List (String × Value) :=
  [("NF", .ofInt 0), ("NR", .ofInt 0), ("FNR", .ofInt 0), ("FS", .text [' ']),
    ("OFS", .text [' ']), ("ORS", .text ['\n']), ("RS", .text ['\n']), ("SUBSEP", .text ['\x1c']),
    ("CONVFMT", .text "%.6g".toList), ("OFMT", .text "%.6g".toList)]

/-- The state in which a program starts with some arguments. -/
def start (p : Program) (scene : Scene) (args : List Bytes) : Scan.State :=
  let values := p.names.map fun name =>
    ((initialValues.find? (·.1.toList = name)).map (·.2)).getD .unset
  let environment := scene.environment.foldl
    (fun (t : Table) v => t.insert (.word v.1) (.given v.2)) default
  let argv := (args.mapIdx fun i a => (i, a)).foldl
    (fun (t : Table) (i, a) => t.insert (.whole i) (.given a)) default
  let tables := (Array.replicate p.names.size (default : Table)).setIfInBounds
    (setting "ENVIRON") environment |>.setIfInBounds (setting "ARGV") argv
  let s : Scan.State :=
    { scene := scene, values := values, tables := tables, frame := #[], depth := 0
      record := .text [], fields := #[], isSplit := true, isJoined := true, separator := [' ']
      input := ⟨1, false, [], none, false, false⟩, pending := [], writers := [], sources := []
      ranges := Array.replicate p.rules.length false, expressions := []
      seed := .ofInt 0, random := Evaluation.nextRandom 0, left := Evaluation.rounds, status := 0 }
  s.withSetting "ARGC" (.ofInt args.length)

/-- Carries out a scanning program. -/
def awk : Delegate := fun args => do
  Act.setFailing 2
  if args.isEmpty then
    Act.putMessage usage
    Act.finish 0
  let w ← read (args.length + 1) args ⟨[], none, [], []⟩
  let (file, text, operands) ← match w.texts, w.operands with
    | [], [] => do
      Act.putMessage usage
      Act.finish 2
    | [], text :: operands => pure (none, text, operands)
    | (name, text) :: more, operands =>
      let all := more.foldl (fun all t => fed all ++ t.2) text
      pure (some name, all, operands)
  match Reading.program text with
  | .error faults => do
    faults.forM fun f => Act.warn (messageOf file f)
    Act.finish 2
  | .ok p => do
    let scene ← get
    let given := (w.separator.map (("FS".toList, ·))).toList ++ w.assigned
    let whole : Doing Unit := do
      given.forM fun (name, value) => Stream.assign p name value
      Evaluation.scanAndClose p
    let s := start p { scene with written := [] } (scene.name :: operands)
    return Evaluation.plan (whole s)

end ActionTree.Sh.Scanning
