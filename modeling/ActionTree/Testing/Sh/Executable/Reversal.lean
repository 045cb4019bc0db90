import ActionTree.Testing.Sh.Executable.Options

/-!
# Programs that turn texts around

`tac` prints the lines of its files in reverse order, and `rev` prints the characters of each line
in reverse order.

* `Reversal.pieces`: a text between separators, the last piece first.
-/

namespace ActionTree.Sh.Reversal

/-! ## The order of lines -/

/-- The pieces of a reversed text between reversed separators, in the order of that text, each as it
is in the text itself. The piece that is being read comes first, as far as it is known. -/
def piecesOf (separator : Bytes) : Nat → Bytes → Bytes → List Bytes
  | 0, piece, _ => [piece]
  | n + 1, piece, cs =>
    match cs with
    | [] => [piece]
    | c :: rest =>
      if separator.isPrefixOf cs then piece :: piecesOf separator n [] (cs.drop separator.length)
      else piecesOf separator n (c :: piece) rest

/-- The pieces of a text between separators, the last piece first. Where separators overlap, the
last one counts. -/
def pieces (separator text : Bytes) : List Bytes :=
  piecesOf separator.reverse (text.length + 1) [] text.reverse

/-- A text with its records in reverse order. Each record has its separator behind it, or before
it. -/
def reordered (before : Bool) (separator text : Bytes) : Bytes :=
  let all := pieces separator text
  if before then all.dropLast.flatMap (separator ++ ·) ++ all.getLastD []
  else all.headD [] ++ all.tail.flatMap (· ++ separator)

/-- What is said of a file whose lines cannot be read. -/
def unreadable (arg : Bytes) (t : Trouble) : Bytes :=
  match t with
  | .isDirectory => shown arg ++ ": read error: ".toList ++ Trouble.message .invalid
  | t => "failed to open ".toList ++ quotedName arg ++ " for reading: ".toList ++ t.message

/-- The files with their lines in reverse order. -/
def tac : Executable := withOptions "brs:"
  [("before", .never, 'b'), ("regex", .never, 'r'), ("separator", .always, 's')] fun o => do
  let given := (o.value? 's').getD ['\n']
  if given.isEmpty && o.has 'r' then Act.quit "separator cannot be empty".toList
  let separator := if given.isEmpty then ['\x00'] else given
  for arg in Act.orInput o.operands do
    match ← Act.read arg, arg with
    | .ok text, _ => if !text.isEmpty then Act.put (reordered (o.has 'b') separator text)
    | .error t, ['-'] => do
      Act.complain ("'standard input': read error: ".toList ++ t.message)
      Act.complain (Act.unreadable arg t)
    | .error t, arg => Act.complain (unreadable arg t)

/-! ## The order of characters -/

/-- The text with each of its lines turned around. -/
def turned (separator : Char) (text : Bytes) : Bytes :=
  [separator].intercalate ((splitAt separator text).map List.reverse)

/-- Prints the lines of a text turned around. There is no end to a line with something that is not a
character. -/
def putTurned (separator : Char) (text : Bytes) : Act Unit := do
  if text.any fun c => 128 ≤ c.toNat then modify fun s => { s with endless := true }
  else Act.put (turned separator text)

/-- The files with each line turned around. A directory is read without an end, and so is an input
that is closed. -/
def rev : Executable := withOptions "0Vh" [("zero", .never, '0')] fun o => do
  let separator := if o.has '0' then '\x00' else '\n'
  let use (found : Except Trouble Bytes) : Act Unit := do
    match found with
    | .ok text => putTurned separator text
    | .error _ => modify fun s => { s with endless := true }
  if o.has 'V' || o.has 'h' then Act.finish 0
  if o.operands.isEmpty then use (← Act.readInput)
  for arg in o.operands do
    match ← Act.find arg with
    | .ok n => use (← Act.readNode n)
    | .error t => Act.complain ("cannot open ".toList ++ arg ++ ": ".toList ++ t.message)

end ActionTree.Sh.Reversal
