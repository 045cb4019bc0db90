import ActionTree.Testing.Sh.Digest
import ActionTree.Testing.Sh.Executable.Options

/-!
# Digests of files

`md5sum` and its like print the digests of files, and say whether files still have the digests that
a list tells of them. `cksum` prints checksums and lengths.

* `Record.read`: a line of a list.
* `Digests.program`: the program of a method.
-/

namespace ActionTree.Sh.Digests

open Digest

/-- A name that stays in one line, and whether that took a change. -/
def lineName (name : Bytes) : Bool × Bytes :=
  let changed := name.flatMap fun c => match c with
    | '\\' => ['\\', '\\']
    | '\n' => ['\\', 'n']
    | '\r' => ['\\', 'r']
    | c => [c]
  (changed ≠ name, changed)

/-- The name that one in a line stands for, if it is one. -/
def nameOf? : Bytes → Option Bytes
  | '\\' :: '\\' :: rest => (nameOf? rest).map ('\\' :: ·)
  | '\\' :: 'n' :: rest => (nameOf? rest).map ('\n' :: ·)
  | '\\' :: 'r' :: rest => (nameOf? rest).map ('\r' :: ·)
  | '\\' :: _ => none
  | c :: rest => (nameOf? rest).map (c :: ·)
  | [] => some []

/-- A line behind a mark that its name was changed. -/
def marked (name : Bytes) (line : Bytes → Bytes) : Bytes :=
  let (isChanged, name) := lineName name
  if isChanged then '\\' :: line name else line name

/-! ## Lists -/

/-- What a line of a list tells. -/
structure Record where
  /-- The file. -/
  path : Bytes
  /-- Its digest. -/
  digest : Bytes
  /-- Do the names of the list follow one blank, as far as that is known? -/
  isShort : Option Bool

/-- Does a character part a digest from what is beside it? -/
def parts (c : Char) : Bool := c = ' ' || c = '\t'

namespace Record

/-- Is a text a digest of a method? -/
def isDigest (m : Method) (cs : Bytes) : Bool :=
  cs.length = m.size && cs.all fun c => (Arith.digit? 16 c).isSome

/-- A line with a name between brackets behind the name of a method. -/
def ofTagged (m : Method) (isChanged : Bool) (isShort : Option Bool) (cs : Bytes) :
    Option Record := do
  let digest := (cs.reverse.takeWhile (· ≠ ')')).reverse
  if digest.length = cs.length then none
  else
    let name := cs.take (cs.length - digest.length - 1)
    match digest.dropWhile parts with
    | '=' :: digest =>
      let digest := digest.dropWhile parts
      if isDigest m digest then
        return ⟨← if isChanged then nameOf? name else some name, digest, isShort⟩
      else none
    | _ => none

/-- A line with a name behind a digest. -/
def ofPlain (m : Method) (isChanged : Bool) (isShort : Option Bool) (cs : Bytes) :
    Option Record := do
  let digest := cs.take m.size
  match cs.drop m.size with
  | blank :: c :: rest =>
    if !parts blank || !isDigest m digest then none
    else
      let looksShort : Bool := rest.isEmpty || c ≠ ' ' && c ≠ '*'
      if looksShort && isShort = some false then none
      else
        let isShort := some (looksShort || isShort = some true)
        let name := if isShort = some true then c :: rest else rest
        return ⟨← if isChanged then nameOf? name else some name, digest, isShort⟩
  | _ => none

/-- What a line tells, if it is one of a list. -/
def read (m : Method) (isShort : Option Bool) (line : Bytes) : Option Record :=
  let cs := line.dropWhile parts
  let (isChanged, cs) := match cs with
    | '\\' :: cs => (true, cs)
    | cs => (false, cs)
  if m.name.toList.isPrefixOf cs then
    match cs.drop m.name.length with
    | ' ' :: '(' :: cs | '(' :: cs => ofTagged m isChanged isShort cs
    | _ => none
  else ofPlain m isChanged isShort cs

end Record

/-- What came of the lines of a list. -/
structure Tally where
  /-- Lines that tell something. -/
  good : Nat
  /-- Lines that tell nothing. -/
  bad : Nat
  /-- Files that cannot be read. -/
  unread : Nat
  /-- Files with other digests. -/
  wrong : Nat
  /-- Files with the digests that are told. -/
  right : Nat

/-- The number of some things, with a text for one and for more of them. -/
def counted (n : Nat) (one more : String) : Bytes :=
  "WARNING: ".toList ++ decimal n ++ (if n = 1 then one else more).toList

/-- How much is told of a list: the letter of an option. -/
abbrev Talk := Option Char

/-- Compares the digest of a file with what a line tells of it. -/
def compare (m : Method) (talk : Talk) (passesMissing : Bool) (r : Record) (t : Tally) :
    Act Tally := do
  let say (what : String) : Act Unit :=
    if talk = some '\x03' then pure ()
    else Act.put (fed (marked r.path fun name => name ++ ": ".toList ++ what.toList))
  match ← Act.read r.path with
  | .error .absent =>
    if passesMissing then return t
    else
      Act.complain (Act.unreadable r.path .absent)
      say "FAILED open or read"
      return { t with unread := t.unread + 1 }
  | .error e =>
    Act.complain (Act.unreadable r.path e)
    say "FAILED open or read"
    return { t with unread := t.unread + 1 }
  | .ok text =>
    if m.digest text = r.digest.map Char.toLower then
      if talk ≠ some '\x04' then say "OK"
      return { t with right := t.right + 1 }
    else
      say "FAILED"
      return { t with wrong := t.wrong + 1 }

/-- Compares digests with those that a list tells. -/
def check (m : Method) (o : Options) (talk : Talk) (list : Bytes) : Act Unit := do
  let name := if list = ['-'] then "'standard input'".toList else shown list
  match ← Act.read list with
  | .error .isDirectory => Act.complain (shown list ++ ": read error".toList)
  | .error t => Act.complain (Act.unreadable list t)
  | .ok text =>
    let mut t : Tally := ⟨0, 0, 0, 0, 0⟩
    let mut isShort : Option Bool := none
    for (line, i) in (linesOf text).zipIdx do
      let line := if line.getLast? = some '\r' then line.dropLast else line
      if !line.isEmpty && line.head? ≠ some '#' then
        match Record.read m isShort line with
        | some r =>
          if list = ['-'] && r.path = ['-'] then
            t := { t with bad := t.bad + 1 }
          else
            isShort := r.isShort
            t ← compare m talk (o.has 'm') r { t with good := t.good + 1 }
        | none =>
          if talk = some 'w' then
            Act.warn (name ++ ": ".toList ++ decimal (i + 1 : Nat)
              ++ ": improperly formatted ".toList ++ m.name.toList ++ " checksum line".toList)
          t := { t with bad := t.bad + 1 }
    if t.good = 0 then
      Act.complain (name ++ ": no properly formatted checksum lines found".toList)
    else
      if talk ≠ some '\x03' then
        if t.bad ≠ 0 then
          Act.warn (counted t.bad " line is improperly formatted" " lines are improperly formatted")
        if t.unread ≠ 0 then
          Act.warn (counted t.unread " listed file could not be read"
            " listed files could not be read")
        if t.wrong ≠ 0 then
          Act.warn (counted t.wrong " computed checksum did NOT match"
            " computed checksums did NOT match")
        if o.has 'm' && t.right = 0 then
          Act.warn (name ++ ": no file was verified".toList)
      if t.right = 0 || t.wrong ≠ 0 || t.unread ≠ 0 || o.has 's' && t.bad ≠ 0 then
        Act.setStatus 1

/-- What is wrong with the options together, if anything is. -/
def fault? (o : Options) : Option String :=
  let only (c : Char) (name : String) : Option String :=
    if o.has c && !o.has 'c' then
      some ("the --" ++ name ++ " option is meaningful only when verifying checksums")
    else none
  let never (given : Bool) (what : String) : Option String :=
    if given && o.has 'c' then some (what ++ " when verifying checksums") else none
  if o.has 'g' && o.last? "btg" = some 't' then some "--tag does not support --text mode"
  else never (o.has 'z') "the --zero option is not supported"
    <|> never (o.has 'g') "the --tag option is meaningless"
    <|> never (o.has 'b' || o.has 't') "the --binary and --text options are meaningless"
    <|> only 'm' "ignore-missing" <|> only '\x03' "status" <|> only 'w' "warn"
    <|> only '\x04' "quiet" <|> only 's' "strict"

/-- The program of a method. -/
def program (m : Method) : Executable := withOptions "bctwz"
  [("binary", .never, 'b'), ("check", .never, 'c'), ("ignore-missing", .never, 'm'),
    ("quiet", .never, '\x04'), ("status", .never, '\x03'), ("strict", .never, 's'),
    ("tag", .never, 'g'), ("text", .never, 't'), ("warn", .never, 'w'),
    ("zero", .never, 'z')] fun o => do
  if let some what := fault? o then Act.misuse what.toList
  for path in Act.orInput o.operands do
    if o.has 'c' then check m o (o.last? "\x03\x04w") path
    else match ← Act.read path with
      | .error t => Act.complain (Act.unreadable path t)
      | .ok text =>
        let digest := m.digest text
        let line (name : Bytes) : Bytes :=
          if o.has 'g' then m.name.toList ++ " (".toList ++ name ++ ") = ".toList ++ digest
          else digest ++ ' ' :: (if o.last? "bt" = some 'b' then '*' else ' ') :: name
        Act.put (if o.has 'z' then line path ++ ['\x00'] else fed (marked path line))

/-- Prints the checksums and the lengths of files. -/
def cksum : Executable := withOptions "" [] fun o => do
  for path in Act.orInput o.operands do
    match ← Act.read path with
    | .error t => Act.complain (Act.unreadable path t)
    | .ok text =>
      Act.put (fed (decimal (checksum text) ++ ' ' :: decimal text.length
        ++ if o.operands.isEmpty then [] else ' ' :: path))

end ActionTree.Sh.Digests
