import ActionTree.Testing.Sh.Glob
import ActionTree.Testing.Sh.Machine

/-!
# Expansion of words

The parts of a word are replaced by their values, and the result is split into fields: at separators
that come from unquoted parts, and between the positional parameters of `$@`. A field that is a
pattern stands for the paths that fit it.

* `fields`: the fields of words.
* `text`: the text of a word that is not split.
* `pattern`: the pattern that a word is.
-/

namespace ActionTree.Sh

/-- An expanded character, or what matters for splitting. -/
inductive Atom where
  /-- A character: does it stand for itself in a pattern, and may a field be split at it? -/
  | char (quoted splits : Bool) (c : Char)
  /-- A field is here even if it is empty. -/
  | mark
  /-- A field ends here. -/
  | cut
  deriving DecidableEq

namespace Expansion

/-- The characters of a value. -/
def atomsOf (quoted : Bool) (cs : Bytes) : List Atom := cs.map (.char quoted !quoted)

/-- The characters between fields, unless a variable says otherwise. -/
def usualSeparators : Bytes := [' ', '\t', '\n']

/-- The characters between fields. -/
def separators (p : Process) : Bytes := (p.value? "IFS".toList).getD usualSeparators

/-- The fields found so far, the latest first, the one that is being collected, in reverse, and
whether blanks ended the field before. -/
structure Splitting where
  done : List Marked
  current : Option Marked
  ended : Bool

namespace Splitting

/-- The field that is being collected is complete. -/
def close (s : Splitting) : Splitting :=
  { s with done := (s.current.map List.reverse).toList ++ s.done, current := none }

/-- One more character of the field that is being collected. -/
def add (s : Splitting) (quoted : Bool) (c : Char) : Splitting :=
  { s with current := some ((quoted, c) :: s.current.getD []), ended := false }

/-- What an atom adds. Blank separators only end a field; another one with the blanks around it
stands behind a field, even an empty one. -/
def step (separators : Bytes) (s : Splitting) : Atom → Splitting
  | .mark => { s with current := some (s.current.getD []), ended := false }
  | .cut => { s.close with ended := false }
  | .char quoted splits c =>
    if !splits || !separators.contains c then s.add quoted c
    else if usualSeparators.contains c then
      { s.close with ended := s.ended || s.current.isSome }
    else if s.ended then { s.close with ended := false }
    else { (Splitting.mk s.done (some (s.current.getD [])) false).close with ended := false }

end Splitting

/-- The fields of an expanded word. -/
def split (separators : Bytes) (atoms : List Atom) : List Marked :=
  ((atoms.foldl (Splitting.step separators) ⟨[], none, false⟩).close).done.reverse

/-- The text of an expanded word. -/
def joinAtoms (atoms : List Atom) : Bytes :=
  atoms.filterMap fun
    | .char _ _ c => some c
    | .mark => none
    | .cut => some ' '

/-- An expanded word as a marked text. -/
def markedAtoms (atoms : List Atom) : Marked :=
  atoms.filterMap fun
    | .char quoted _ c => some (quoted, c)
    | .mark => none
    | .cut => some (true, ' ')

/-- The letters of the options, in the order in which they are shown. -/
def letterOrder : List Char := "pubaCEVvxsnmiIfe".toList

/-- The value of a parameter, if it has one. -/
def value? (name : Bytes) : Run (Option Bytes) := do
  let p ← Run.process
  match name with
  | ['?'] => return some (decimal p.status)
  | ['#'] => return some (decimal p.params.length)
  | ['$'] => return some (decimal p.shellPid)
  | ['0'] => return some p.name
  | ['-'] => return some (letterOrder.filter p.has)
  | ['!'] => return p.lastJob.map fun n => decimal n
  | ['@'] | ['*'] => return if p.params.isEmpty then none else some (spaced p.params)
  | name => match Text.natural? countBound name with
    | some n => return if n = 0 then some p.name else p.params[n - 1]?
    | none => return p.value? name

/-- The value of a parameter that has to have one if the options say so. -/
def required (line : Nat) (name : Bytes) : Run Bytes := do
  match ← value? name with
  | some v => return v
  | none =>
    if (← Run.process).has 'u' && !name.all ['@', '*'].contains then
      Run.fail line (name ++ ": parameter not set".toList)
    else return []

/-- The atoms of all positional parameters. -/
def allParams (quoted atSign : Bool) : Run (List Atom) := do
  let p ← Run.process
  if quoted && !atSign then
    let between := (separators p).take 1
    return .mark :: (between.intercalate p.params).map (.char true false)
  let mark := if quoted then [Atom.mark] else []
  return (p.params.map fun x => mark ++ atomsOf quoted x).intersperse [.cut] |>.flatten

/-- The atoms of the value of a parameter. -/
def valueAtoms (line : Nat) (quoted : Bool) (name : Bytes) : Run (List Atom) := do
  match name with
  | ['@'] => allParams quoted true
  | ['*'] => allParams quoted false
  | _ => return atomsOf quoted (← required line name)

/-- The output of a command without the line feeds at its end. -/
def chomp (cs : Bytes) : Bytes := (cs.reverse.dropWhile (· = '\n')).reverse

/-- The home directory of the administrator. -/
def rootHome : Word := "/root".toList.map (.char true)

/-- A word in which a tilde at the start stands for a home directory. In an assignment a colon may
stand behind it, and a tilde may stand behind a colon too. -/
def withHome (assigned : Bool) (w : Word) : Word :=
  match w with
  | .char false '~' :: rest =>
    let isEnd : Piece → Bool
      | .char false c => c = '/' || (assigned && c = ':')
      | _ => false
    let name := rest.takeWhile (!isEnd ·)
    match plainText? name with
    | some [] => .param true "HOME".toList (.orElse false [.char true '~']) :: rest
    | some n => if n = "root".toList then rootHome ++ rest.drop n.length else w
    | none => w
  | w => w

/-- The word of an assignment, in which a tilde behind a colon stands for a home directory too. -/
def withHomes (w : Word) : Word :=
  go w.length (withHome true w)
where
  /-- The rest of a word, of which a number of pieces are looked at. -/
  go : Nat → Word → Word
    | 0, w => w
    | _, [] => []
    | n + 1, .char false ':' :: rest => .char false ':' :: go n (withHome true rest)
    | n + 1, p :: rest => p :: go n rest

mutual

/-- The atoms of a word; `splits` says that fields may be split at its own characters. -/
def atoms (run : Command → Run Unit) (line : Nat) (splits : Bool) : Word → Run (List Atom)
  | [] => return []
  | .char quoted c :: rest => do
    return .char quoted (splits && !quoted) c :: (← atoms run line splits rest)
  | .quotes :: rest => do return .mark :: (← atoms run line splits rest)
  | .param quoted name use :: rest => do
    return (← useAtoms run line quoted name use) ++ (← atoms run line splits rest)
  | .output quoted command :: rest => do
    let (text, _) ← Run.capture false (Run.testing false (run command))
    Run.update fun p => { p with captured := p.status }
    return atomsOf quoted (chomp text) ++ (← atoms run line splits rest)
  | .arith quoted w :: rest => do
    let expression := joinAtoms (← atoms run line false w)
    let p ← Run.process
    match Arith.value (fun x => (p.value? x).getD []) expression with
    | .ok (v, assigned) => do
      for (x, i) in assigned do
        Run.assign line x (decimal i)
      return atomsOf quoted (decimal v) ++ (← atoms run line splits rest)
    | .error .trap => throw (.killed p.pid 8)
    | .error f => Run.fail line (f.message expression)

/-- The atoms of a word inside of a parameter's braces, where a tilde may stand for a directory. -/
def innerAtoms (run : Command → Run Unit) (line : Nat) : Word → Run (List Atom)
  | [] => return []
  | .char false '~' :: rest => do
    let tail ← atoms run line true rest
    let home ← Run.valueOf? "HOME".toList
    let ends : Bool := match tail with
      | [] => true
      | .char _ _ c :: _ => c = '/'
      | _ => false
    match home, ends with
    | some h, true => return h.map (.char true false) ++ tail
    | _, _ => return .char false true '~' :: tail
  | p :: rest => atoms run line true (p :: rest)

/-- The atoms of a parameter. -/
def useAtoms (run : Command → Run Unit) (line : Nat) (quoted : Bool) (name : Bytes) :
    ParamUse → Run (List Atom)
  | .value => valueAtoms line quoted name
  | .length => do return atomsOf quoted (decimal (← required line name).length)
  | .orElse colon w => do
    match (← value? name).filter fun v => !(colon && v.isEmpty) with
    | some _ => valueAtoms line quoted name
    | none => innerAtoms run line w
  | .orAssign colon w => do
    match (← value? name).filter fun v => !(colon && v.isEmpty) with
    | some _ => valueAtoms line quoted name
    | none => do
      let v := joinAtoms (← innerAtoms run line w)
      if !isName name then Run.fail line (name ++ ": bad variable name".toList)
      Run.assign line name v
      return atomsOf quoted v
  | .ifSet colon w => do
    match (← value? name).filter fun v => !(colon && v.isEmpty) with
    | some _ => innerAtoms run line w
    | none => return []
  | .orFail colon w => do
    match (← value? name).filter fun v => !(colon && v.isEmpty) with
    | some _ => valueAtoms line quoted name
    | none => do
      let said := joinAtoms (← innerAtoms run line w)
      let usual := if colon then "parameter not set or null" else "parameter not set"
      let said := if said.isEmpty then usual.toList else said
      Run.fail line (name ++ ": ".toList ++ said)
  | .trim atStart longest w => do
    let v ← required line name
    let p := Pattern.ofMarked (markedAtoms (← innerAtoms run line w))
    return atomsOf quoted (if atStart then p.trimStart longest v else p.trimEnd longest v)
  | .bad => Run.fail line "Bad substitution".toList

end

/-- The text of a word that is not split. -/
def text (run : Command → Run Unit) (line : Nat) (w : Word) : Run Bytes := do
  return joinAtoms (← atoms run line false (withHome false w))

/-- The text of a word that a variable takes on. -/
def assigned (run : Command → Run Unit) (line : Nat) (w : Word) : Run Bytes := do
  return joinAtoms (← atoms run line false (withHomes w))

/-- The pattern that a word is. -/
def pattern (run : Command → Run Unit) (line : Nat) (w : Word) : Run Pattern := do
  return Pattern.ofMarked (markedAtoms (← atoms run line false (withHome false w)))

/-- The fields of a word. -/
def fieldsOf (run : Command → Run Unit) (line : Nat) (w : Word) : Run (List Bytes) := do
  let atoms ← atoms run line false (withHome false w)
  let m ← get
  let fields := split (separators m.process) atoms
  if m.process.has 'f' then return fields.map Glob.plain
  else return fields.flatMap (Glob.paths m.disk m.process.directory)

/-- The fields of words. -/
def fields (run : Command → Run Unit) (line : Nat) : List Word → Run (List Bytes)
  | [] => return []
  | w :: ws => do
    let own ← fieldsOf run line w
    return own ++ (← fields run line ws)

end Expansion

end ActionTree.Sh
