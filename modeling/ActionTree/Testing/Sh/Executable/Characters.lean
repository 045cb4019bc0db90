import ActionTree.Testing.Sh.Pattern
import ActionTree.Testing.Sh.Executable.Options

/-!
# Replacing characters

`tr` replaces, deletes or squeezes the characters of its input. A set is given by characters,
ranges, classes, repetitions and escapes, in an order that matters for replacement.

* `Characters.readSet`: the parts of a set.
-/

namespace ActionTree.Sh.Characters

/-- A part of a set. -/
inductive Part where
  | one (c : Char)
  | range (first last : Char)
  | named (name : Bytes) (chars : List Char)
  /-- A character so many times, or as often as is needed. -/
  | repeated (c : Char) (count : Option Nat)

/-- A set as it was read, and what is said of it. -/
structure Reading where
  parts : List Part
  warnings : List Bytes

/-- The characters from one to another. -/
def span (a b : Char) : List Char :=
  (List.range (b.toNat + 1 - a.toNat)).map fun i => Char.ofNat (a.toNat + i)

/-- The character that a text starts with, which may be escaped, whether it is, what is said of the
escape, and the rest. -/
def element : Bytes → Option (Char × Bool × List Bytes × Bytes)
  | ['\\'] =>
    some ('\\', true,
      ["warning: an unescaped backslash at end of string is not portable".toList], [])
  | '\\' :: c :: rest =>
    match (if c = 'e' then none else controlEscape? c) with
    | some d => some (d, true, [], rest)
    | none =>
      if isOctal c then
        let (code, out) := octal 3 0 (c :: rest)
        if code < 256 then some (Char.ofNat code, true, [], out)
        else
          let (short, out) := octal 2 0 (c :: rest)
          let ds := (c :: rest).take 3
          some (byteChar short, true,
            ["warning: the ambiguous octal escape \\".toList ++ ds
              ++ " is being\n\tinterpreted as the 2-byte sequence \\0".toList ++ ds.take 2
              ++ ", ".toList ++ ds.drop 2], out)
      else some (c, true, [], rest)
  | c :: rest => some (c, false, [], rest)
  | [] => none

/-- A text up to a mark of two characters, and what is behind it. -/
def upTo? (a b : Char) : Bytes → Bytes → Option (Bytes × Bytes)
  | done, x :: y :: rest =>
    if x = a && y = b then some (done.reverse, rest) else upTo? a b (x :: done) (y :: rest)
  | _, _ => none

/-- A repetition behind its bracket and its character: how often, and the rest. -/
def count? (cs : Bytes) : Option (Except Bytes (Option Nat) × Bytes) :=
  let text := cs.takeWhile (· ≠ ']')
  match cs.drop text.length with
  | ']' :: rest =>
    let base := if text.head? = some '0' then 8 else 10
    let (n, out) := Arith.digits base 0 text
    if text.contains '[' then none
    else if out.isEmpty then some (.ok (if n = 0 then none else some n), rest)
    else some (.error text, rest)
  | _ => none

/-- The parts of a set that is at most so long. -/
def readIn : Nat → Bytes → Except Bytes Reading
  | 0, _ => .ok ⟨[], []⟩
  | n + 1, cs =>
    let put (p : Part) (warnings : List Bytes) (rest : Bytes) : Except Bytes Reading :=
      (readIn n rest).map fun r => ⟨p :: r.parts, warnings ++ r.warnings⟩
    let plain : Except Bytes Reading := match element cs with
      | none => .ok ⟨[], []⟩
      | some (a, _, ws, rest) =>
        match rest with
        | '-' :: more =>
          match element more with
          | none => put (.one a) ws rest
          | some (b, _, vs, out) =>
            if b < a then
              let shown (c : Char) : Bytes := if isPrintable c then [c] else escapeText c
              .error ("range-endpoints of '".toList ++ shown a ++ '-' :: shown b
                ++ "' are in reverse collating sequence order".toList)
            else put (.range a b) (ws ++ vs) out
        | rest => put (.one a) ws rest
    let repetition : Except Bytes Reading := match cs with
      | '[' :: more =>
        match element more with
        | some (c, _, ws, '*' :: rest) =>
          match count? rest with
          | some (.ok k, out) => put (.repeated c k) ws out
          | some (.error text, _) =>
            .error ("invalid repeat count ".toList ++ visibly text ++ " in [c*n] construct".toList)
          | none => plain
        | _ => plain
      | _ => plain
    match cs with
    | '[' :: ':' :: rest =>
      match upTo? ':' ']' [] rest with
      | some (name, out) =>
        match CharSet.named? name with
        | some rs => put (.named name (rs.flatMap fun r => span r.1 r.2)) [] out
        | none =>
          if name.isEmpty then .error "missing character class name '[::]'".toList
          else .error ("invalid character class ".toList ++ visibly name)
      | none => repetition
    | '[' :: '=' :: rest =>
      match upTo? '=' ']' [] rest with
      | some ([c], out) => put (.one c) [] out
      | some ([], _) => .error "missing equivalence class character '[==]'".toList
      | some (cs, _) =>
        .error (cs ++ ": equivalence class operand must be a single character".toList)
      | none => repetition
    | '[' :: _ => repetition
    | _ => plain

/-- The parts of a set. -/
def readSet (cs : Bytes) : Except Bytes Reading := readIn (cs.length + 1) cs

/-- The characters of a part; one that is repeated as often as is needed counts so many times. -/
def Part.chars (fill : Nat) : Part → List Char
  | .one c => [c]
  | .range a b => span a b
  | .named _ cs => cs
  | .repeated c (some n) => List.replicate n c
  | .repeated c none => List.replicate fill c

/-- The characters of parts. -/
def charsOf (fill : Nat) (ps : List Part) : List Char := ps.flatMap (Part.chars fill)

/-- The characters that are not in a list. -/
def others (cs : List Char) : List Char :=
  ((List.range 256).map Char.ofNat).filter fun c => !cs.contains c

/-- Is a part one of the classes of upper and lower letters? -/
def isCase : Part → Bool
  | .named name _ => name = "upper".toList || name = "lower".toList
  | _ => false

/-- A text in which runs of one character of a list count once. -/
def squeeze (cs : List Char) (text : Bytes) : Bytes :=
  (text.foldl (fun (done : Bytes) c => match done with
    | d :: _ => if d = c && cs.contains c then done else c :: done
    | [] => [c]) []).reverse

/-- The message on the wrong number of sets. -/
def checkSets (o : Options) : Act Unit := do
  let deleting := o.has 'd'
  let squeezing := o.has 's'
  let least := if deleting == squeezing then 2 else 1
  let most := if deleting && !squeezing then 1 else 2
  match o.operands, (o.operands[most]?) with
  | [], _ => Act.misuse "missing operand".toList
  | _, some extra => do
    Act.warn ("extra operand ".toList ++ visibly extra)
    if most = 1 && o.operands.length = 2 then
      Act.putMessage
        "Only one string may be given when deleting without squeezing repeats.\n".toList
    Act.refer
  | sets, none =>
    if sets.length < least then
      Act.warn ("missing operand after ".toList ++ visibly ((sets.getLast?).getD []))
      Act.putMessage (if squeezing then
          "Two strings must be given when both deleting and squeezing repeats.\n".toList
        else "Two strings must be given when translating.\n".toList)
      Act.refer

/-- A set that is read, with the warnings on it. -/
def set (text : Bytes) : Act (List Part) := do
  match readSet text with
  | .ok r => do
    for w in r.warnings do
      Act.warn w
    return r.parts
  | .error what => Act.quit what

/-- The parts of the second set next to those of the first one, where classes of upper and lower
letters have to meet. -/
def isAligned (froms tos : List Part) : Bool :=
  let starts (ps : List Part) : List Nat :=
    (ps.foldl (fun (acc : List Nat × Nat) p =>
      (if isCase p then acc.2 :: acc.1 else acc.1, acc.2 + (p.chars 0).length)) ([], 0)).1
  (starts tos).all (starts froms).contains

/-- The input with characters replaced, deleted or squeezed. -/
def tr : Executable := fun args => do
  let o ← Options.read ⟨"cCdst", [("complement", .never, 'c'), ("delete", .never, 'd'),
    ("squeeze-repeats", .never, 's'), ("truncate-set1", .never, 't')], false⟩ args
  checkSets o
  let complement := o.has 'c' || o.has 'C'
  let first ← set (o.operands.headD [])
  let second ← match o.operands[1]? with
    | none => pure none
    | some text => (set text).map some
  if first.any fun p => match p with
      | .repeated _ none => true
      | _ => false then
    Act.quit "the [c*] repeat construct may not appear in string1".toList
  let plain := charsOf 0 first
  let listed := if complement then others plain else plain
  let translating := !o.has 'd' && second.isSome
  let tos ← match second with
    | none => pure []
    | some parts => do
      let open_ := parts.filter fun p => match p with
        | .repeated _ none => true
        | _ => false
      if 1 < open_.length then
        Act.quit "only one [c*] repeat construct may appear in string2".toList
      if translating then
        if parts.any fun p => match p with
            | .named .. => !isCase p
            | _ => false then
          Act.quit ("when translating, the only character classes that may appear in\n"
            ++ "string2 are 'upper' and 'lower'").toList
        if !isAligned first parts then
          Act.quit "misaligned [:upper:] and/or [:lower:] construct".toList
      let known := (charsOf 0 parts).length
      let endsNamed : Bool := match parts.getLast? with
        | some (.named ..) => true
        | _ => false
      if translating && !o.has 't' && endsNamed && known < listed.length then
        Act.quit ("when translating with string1 longer than string2,\n"
          ++ "the latter string must not end with a character class").toList
      let cs := charsOf (listed.length - known) parts
      if translating && !o.has 't' && cs.isEmpty && !listed.isEmpty then
        Act.quit "when not truncating set1, string2 must be non-empty".toList
      pure cs
  let froms := if o.has 't' then listed.take tos.length else listed
  let table : Array Char := (froms.zipIdx).foldl (fun (t : Array Char) (c, i) =>
    t.setIfInBounds c.toNat ((tos[i]?).getD (tos.getLast?.getD c)))
    ((List.range 256).map Char.ofNat).toArray
  let text ← match ← Act.readInput with
    | .ok text => pure text
    | .error t => Act.quit ("read error: ".toList ++ t.message)
  let isListed (c : Char) : Bool := plain.contains c != complement
  if o.has 'd' then
    let kept := text.filter (!isListed ·)
    Act.put (if o.has 's' then squeeze tos kept else kept)
  else if second.isNone then Act.put (squeeze listed text)
  else
    let out := text.map fun c => table.getD c.toNat c
    Act.put (if o.has 's' then squeeze tos out else out)

end ActionTree.Sh.Characters
