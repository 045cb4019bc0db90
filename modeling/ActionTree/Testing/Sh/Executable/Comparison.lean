import ActionTree.Testing.Sh.Executable.Parts

/-!
# Comparing bytes

`cmp` says where two files differ first, or all places where they do.

* `Comparison.first?`: the first place where two texts differ.
-/

namespace ActionTree.Sh.Comparison

/-- A byte as a display shows it: a letter, or marks for those that are none. -/
def visible (c : Char) : Bytes :=
  let (mark, n) : Bytes × Nat :=
    if c.toNat < 128 then ([], c.toNat) else (['M', '-'], c.toNat - 128)
  mark ++
    (if n < 32 then ['^', Char.ofNat (n + 64)]
    else if n = 127 then ['^', '?']
    else [Char.ofNat n])

/-- A byte as an octal number of three places. -/
def octal (c : Char) : Bytes := pad false 3 (Nat.toDigits 8 c.toNat)

/-- How two texts part. -/
inductive Parting where
  /-- At bytes that differ: how many bytes and how many line feeds are before them. -/
  | at (n lines : Nat) (a b : Char)
  /-- At the end of one of them, behind so many bytes and line feeds; whether a line ends there. -/
  | end (isFirst : Bool) (n lines : Nat) (ends : Bool)

/-- How two texts part, behind so many bytes and line feeds, if they do; `ends` says whether a line
ended just before. -/
def first? (n lines : Nat) (ends : Bool) : Bytes → Bytes → Option Parting
  | [], [] => none
  | [], _ :: _ => some (.end true n lines ends)
  | _ :: _, [] => some (.end false n lines ends)
  | a :: as, b :: bs =>
    if a = b then first? (n + 1) (if a = '\n' then lines + 1 else lines) (a = '\n') as bs
    else some (.at n lines a b)

/-- The places where two texts differ, behind so many bytes, with the bytes there. -/
def places (as bs : Bytes) : List (Nat × Char × Char) :=
  let pairs := (as.zip bs).zipIdx.map fun ((a, b), i) => (i + 1, a, b)
  pairs.filter fun p => p.2.1 ≠ p.2.2

/-- How many bytes are passed over in both files, if a text says so. -/
def skips? (text : Bytes) : Option (Nat × Nat) :=
  match splitAt ':' text with
  | [both] => (count? both).toOption.map fun n => (n, n)
  | [one, other] => do return (← (count? one).toOption, ← (count? other).toOption)
  | _ => none

/-- A line on the end of one of two texts. -/
def endText (name : Bytes) (counts : Bool) (n lines : Nat) (ends : Bool) : Bytes :=
  let what := "EOF on ".toList ++ name
  if n = 0 then what ++ " which is empty".toList
  else
    let place := what ++ " after byte ".toList ++ decimal n
    if !counts then place
    else if ends then place ++ ", line ".toList ++ decimal lines
    else place ++ ", in line ".toList ++ decimal (lines + 1)

/-- The content of one of the files. What cannot be opened is not even told of if nothing is to be
told. -/
def content (o : Options) (arg : Bytes) : Act Bytes := do
  match ← Act.read arg with
  | .ok text => return text
  | .error t =>
    if o.has 's' && t ≠ .isDirectory then Act.finish 2
    else Act.quit (arg ++ ": ".toList ++ t.message)

/-- The length of a file that is one. -/
def size? (arg : Bytes) : Act (Option Nat) := do
  match ← Act.find arg with
  | .ok n => return match (← get).disk.kind n with
    | .file c => some c.size
    | _ => none
  | .error _ => return none

/-- The number at a place among operands. -/
def operand (o : Options) (i : Nat) : Act (Option Nat) := do
  match o.operands[i]? with
  | none => return none
  | some text => match count? text with
    | .ok n => return some n
    | .error _ => Act.misuse ("invalid --ignore-initial value ".toList ++ singly text)

/-- Compares two files byte by byte. -/
def cmp : Executable := fun args => do
  Act.setFailing 2
  modify fun s => { s with usage := s.name ++ ": ".toList }
  let o ← Options.read ⟨"bci:ln:sv",
    [("print-bytes", .never, 'b'), ("print-chars", .never, 'b'), ("ignore-initial", .always, 'i'),
      ("verbose", .never, 'l'), ("bytes", .always, 'n'), ("silent", .never, 's'),
      ("quiet", .never, 's')], true⟩ args
  let skips ← match o.value? 'i' with
    | none => pure (0, 0)
    | some text => match skips? text with
      | some s => pure s
      | none => Act.misuse ("invalid --ignore-initial value ".toList ++ singly text)
  let most ← match o.value? 'n' with
    | none => pure none
    | some text => match count? text with
      | .ok n => pure (some n)
      | .error _ => Act.misuse ("invalid --bytes value ".toList ++ singly text)
  let prints := o.has 'b' || o.has 'c'
  if o.has 'l' && o.has 's' then Act.misuse "options -l and -s are incompatible".toList
  let name ← match o.operands with
    | [] => do Act.misuse ("missing operand after ".toList ++ singly ((← get).name))
    | first :: _ => pure first
  let other := (o.operands[1]?).getD ['-']
  let skips := ((← operand o 2).getD skips.1, (← operand o 3).getD skips.2)
  if let some extra := o.operands[4]? then Act.misuse ("extra operand ".toList ++ singly extra)
  let as ← content o name
  let bs ← content o other
  let cut (n : Nat) (cs : Bytes) : Bytes :=
    let rest := cs.drop n
    (most.map rest.take).getD rest
  let as := cut skips.1 as
  let bs := cut skips.2 bs
  if o.has 'l' then
    let known := ([← size? name, ← size? other].filterMap id) ++ most.toList
    let width := match known with
      | [] => 19
      | n :: ns => (decimal (ns.foldl min n : Nat)).length
    for (i, a, b) in places as bs do
      let shown (c : Char) (width : Nat) : Bytes :=
        octal c ++ (if prints then ' ' :: pad true width (visible c) else [])
      Act.put (pad false width (decimal i) ++ ' ' :: shown a 4 ++ ' ' :: fed (shown b 0))
      Act.setStatus 1
  match first? 0 0 false as bs with
  | none => pure ()
  | some (.at n lines a b) =>
    Act.setStatus 1
    if !o.has 's' && !o.has 'l' then
      let shown (c : Char) : Bytes := octal c ++ ' ' :: visible c
      Act.put (name ++ ' ' :: other ++ " differ: ".toList
        ++ (if prints then "byte " else "char ").toList ++ decimal (n + 1) ++ ", line ".toList
        ++ decimal (lines + 1)
        ++ fed (if prints then " is ".toList ++ shown a ++ ' ' :: shown b else []))
  | some (.end isFirst n lines ends) =>
    Act.setStatus 1
    if !o.has 's' && !o.has 'l' then
      Act.warn (endText (if isFirst then name else other) true n lines ends)
  let shorter := min as.length bs.length
  if o.has 'l' && as.length ≠ bs.length then
    Act.setStatus 1
    Act.warn (endText (if as.length < bs.length then name else other) false shorter 0 false)

end ActionTree.Sh.Comparison
