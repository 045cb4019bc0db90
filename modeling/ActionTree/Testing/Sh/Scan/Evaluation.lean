import ActionTree.Testing.Sh.Calendar
import ActionTree.Testing.Sh.Scan.Stream

/-!
# Carrying out scanning programs

Terms get values and statements are carried out; both may change variables, the record, and what is
written. Functions are called with values and with tables.

* `Evaluation.value`: the value of a term.
* `Evaluation.run`: a statement is carried out.
* `Evaluation.scan`: a program is carried out.
-/

namespace ActionTree.Sh.Scan.Evaluation

open State

/-- Where a value is kept. -/
inductive Location where
  | name (n : Name)
  | field (i : Nat)
  | cell (table : Nat) (key : Key)

/-- The number of the variable that counts the fields. -/
def fieldCount : Nat := setting "NF"

/-! ## Locations -/

/-- The value of a variable. -/
def nameValue (n : Name) : Doing Value :=
  match n with
  | .shared i =>
    if i = fieldCount then do
      Doing.split
      Doing.ask fun s => .ofInt s.fields.size
    else Doing.ask fun s => s.values[i]?.getD .unset
  | .own i => Doing.ask fun s => match s.frame[i]?.getD default with
    | .value v => v
    | .table _ => .unset

/-- The value at a location. -/
def load : Location → Doing Value
  | .name n => nameValue n
  | .field 0 => Doing.alter fun s =>
    let s := s.joined
    (s.record, s)
  | .field i => do
    Doing.split
    Doing.ask fun s => s.field i
  | .cell t key => Doing.alter fun s =>
    match s.tables[t]? with
    | none => (.unset, s)
    | some table =>
      let v := table.get key
      let s := { s with tables := s.tables.setIfInBounds t default }
      (v, { s with tables := s.tables.setIfInBounds t (table.use key) })

/-- Keeps a value at a location. -/
def store (l : Location) (v : Value) : Doing Unit :=
  match l with
  | .name (.shared i) =>
    if i = fieldCount then Stream.resize v
    else Doing.change fun s => { s with values := s.values.setIfInBounds i v }
  | .name (.own i) => Doing.change fun s => { s with frame := s.frame.setIfInBounds i (.value v) }
  | .field 0 => Doing.change fun s => s.withRecord v
  | .field i => do
    if Stream.mostFields < i then Doing.exhaust
    Doing.split
    Doing.change fun s => s.withField i v
  | .cell t key => Doing.change fun s =>
    match s.tables[t]? with
    | none => s
    | some table =>
      let s := { s with tables := s.tables.setIfInBounds t default }
      { s with tables := s.tables.setIfInBounds t (table.insert key v) }

/-- The number of the table that a name stands for. -/
def tableOf (n : Name) : Doing Nat :=
  match n with
  | .shared i => Doing.ask fun _ => i
  | .own i => Doing.ask fun s => match s.frame[i]?.getD default with
    | .table t => t
    | .value _ => s.tables.size

/-- Changes a table. -/
def changeTable {α : Type} (t : Nat) (f : Table → α × Table) : Doing α :=
  Doing.alter fun s =>
    let table := s.tables[t]?.getD default
    let s := { s with tables := s.tables.setIfInBounds t default }
    let (a, table) := f table
    (a, { s with tables := s.tables.setIfInBounds t table })

/-- Whole numbers below this one are keys of their own. -/
def keyBound : Int := 2147483648

/-- The key that a value is. -/
def keyOf (f : NumberFormat) (v : Value) : Key :=
  match v with
  | .number x =>
    if x.isWhole && -keyBound ≤ x.whole && x.whole < keyBound then .whole x.whole
    else .word (f.textOf x)
  | v => .word (v.toText f)

/-- The key that values are together. -/
def keyOfAll (vs : List Value) : Doing Key :=
  Doing.ask fun s =>
    let f := s.conversion
    match vs with
    | [v] => keyOf f v
    | vs => .word ((s.text "SUBSEP").intercalate (vs.map (·.toText f)))

/-! ## Calculation -/

/-- A calculation with two numbers. -/
def calculate (c : Calculation) (x y : Binary64) : Binary64 :=
  match c with
  | .plus => x.add y
  | .minus => x.minus y
  | .times => x.times y
  | .quotient => x.quotient y
  | .rest => x.rest y
  | .power => x.power y

/-- Are two values ordered in a way? -/
def relates (r : Relation) (o : Ordering) : Bool :=
  match r with
  | .less => o = .lt
  | .atMost => o ≠ .gt
  | .equal => o = .eq
  | .unequal => o ≠ .eq
  | .atLeast => o ≠ .lt
  | .more => o = .gt

/-- A number without what stands behind its point; what is not finite is very large. -/
def wholeOf (x : Binary64) : Int :=
  if x.isFinite then x.whole else if x.isUndefined then 0
  else if x.negative then -keyBound * keyBound else keyBound * keyBound

/-- A part of a text from a place on, which is counted from 1, perhaps with a length. A place before
the start makes the part longer by as much. -/
def part (cs : Bytes) (start : Int) (length : Option Int) : Bytes :=
  let length := length.map fun n => if start < 0 then n - start else n
  let rest := cs.drop ((max start 1).toNat - 1)
  match length with
  | none => rest
  | some n => rest.take n.toNat

/-- The place at which a text is found in another one, counted from 1, or 0. -/
def position (what : Bytes) : Nat → Bytes → Nat
  | n, cs =>
    if what.isPrefixOf cs then n
    else match cs with
      | [] => 0
      | _ :: rest => position what (n + 1) rest

/-- The next of a row of numbers that look like random ones. -/
def nextRandom (n : Nat) : Nat := (n * 6364136223846793005 + 1442695040888963407) % UInt64.size

/-- Does an expression fit a text somewhere? -/
def fits (e : Expression) (cs : Bytes) : Bool := (e.search ⟨cs.toArray, false, false⟩ 0).isSome

/-- The first fit of an expression in a text. -/
def search (e : Expression) (cs : Bytes) : Doing Value :=
  Doing.alter fun s =>
    let (start, length) : Int × Int := match e.search ⟨cs.toArray, false, false⟩ 0 with
      | some (i, f) => (i + 1, f.place - i)
      | none => (0, -1)
    (.ofInt start, (s.withSetting "RSTART" (.ofInt start)).withSetting "RLENGTH" (.ofInt length))

/-- The time, in seconds. -/
def now (s : State) : Int := Calendar.origin + (s.scene.clock / 1000 : Nat)

/-- The whole numbers at the start of a text, at most so many, with white space before them. -/
def wholes : Nat → Bytes → List Int
  | 0, _ => []
  | n + 1, cs =>
    let cs := cs.dropWhile Arith.isSpace
    let (negative, cs) := match cs with
      | '-' :: ds => (true, ds)
      | '+' :: ds => (false, ds)
      | ds => (false, ds)
    let ds := cs.takeWhile Char.isDigit
    if ds.isEmpty then []
    else
      let i : Int := Text.number ds
      (if negative then -i else i) :: wholes n (cs.drop ds.length)

/-- The seconds up to the moment that a text names: six numbers from the year on, and whether it is
summer time. -/
def instantOf (cs : Bytes) : Int :=
  match wholes 7 cs with
  | year :: month :: day :: hour :: minute :: second :: rest =>
    Calendar.seconds year month day hour minute second - (if rest.any (0 < ·) then 3600 else 0)
  | _ => -1

/-- The format of a moment, unless one is given. -/
def usualMoment : Bytes := "%c".toList

/-- A moment in a format. -/
def momentText (seconds : Int) (format : Bytes) : Bytes :=
  Calendar.written (.ofEpoch seconds 0) (if format.isEmpty then usualMoment else format)

/-- What a function that every program has gives for some values. -/
def apply (t : Tool) (vs : List Value) : Doing Value := do
  let f ← Doing.ask (·.conversion)
  let first := vs.headD .unset
  let second := vs.tail.headD .unset
  let x := first.toNumber
  let cs := first.toText f
  match t with
  | .angle => return .number (Binary.liftTwo Float.atan2 x second.toNumber)
  | .cosine => return .number (x.lift Float.cos)
  | .sine => return .number (x.lift Float.sin)
  | .exponential => return .number (x.lift Float.exp)
  | .logarithm => return .number (x.lift Float.log)
  | .root => return .number (x.lift Float.sqrt)
  | .whole => return .number x.truncated
  | .length => return .ofInt cs.length
  | .lower => return .text (cs.map Char.toLower)
  | .upper => return .text (cs.map Char.toUpper)
  | .position => return .ofInt (position (second.toText f) 1 cs)
  | .search => search (← Doing.expression (second.toText f)) cs
  | .part =>
    let start := wholeOf second.toNumber
    return .text (part cs start (vs[2]?.map fun v => wholeOf v.toNumber))
  | .layout =>
    match Layout.print f true cs vs.tail with
    | (text, none) => return .text text
    | (_, some e) => Doing.fault (e.message "sprintf" cs)
  | .random => Doing.alter fun s =>
    let n := nextRandom s.random
    (.number (.ofRatio false (n / 2048) (UInt64.size / 2048)), { s with random := n })
  | .seed => Doing.alter fun s =>
    let v : Value := if vs.isEmpty then .ofInt (now s) else .number x
    (s.seed, { s with seed := v, random := nextRandom v.toNumber.code })
  | .clock => Doing.ask fun s => .ofInt (now s)
  | .instant => return .ofInt (instantOf cs)
  | .moment =>
    let seconds? := if vs.length < 2 then none else some (wholeOf second.toNumber)
    Doing.ask fun s => .text (momentText (seconds?.getD (now s)) cs)
  | .flush => do
    Stream.flushAll
    return .ofInt 0
  | .close => return .ofInt (← Stream.close cs)
  | .system => do
    Stream.flushAll
    return .ofInt (← Stream.start cs .shared)

/-- Says that functions are called too deep. -/
def tooDeep {α : Type} : Doing α :=
  Doing.quit "program limit exceeded: eval stack size=1024".toList

/-- How many variables functions that are called may have. -/
def mostDepth : Nat := 1020

/-- How many rounds a loop may have. -/
def rounds : Nat := 2000000

mutual

/-- The value of a term. -/
def value (p : Program) : Nat → Term → Doing Value
  | 0, _ => tooDeep
  | n + 1, t =>
    match t with
    | .number x => pure (.number x)
    | .text cs => pure (.text cs)
    | .pattern e => do
      let v ← load (.field 0)
      let f ← Doing.ask (·.conversion)
      return .ofBool (fits e (v.toText f))
    | .place place => do load (← location p n place)
    | .assign place t => do
      let l ← location p n place
      let v ← value p n t
      store l v
      return v
    | .update c place t => do
      let l ← location p n place
      let y ← value p n t
      let x ← load l
      let v : Value := .number (calculate c x.toNumber y.toNumber)
      store l v
      return v
    | .count place up before => do
      let l ← location p n place
      let x := (← load l).toNumber
      let y := if up then x.add (.ofInt 1) else x.minus (.ofInt 1)
      store l (.number y)
      return .number (if before then y else x)
    | .calculate c a b => do
      let x ← value p n a
      let y ← value p n b
      return .number (calculate c x.toNumber y.toNumber)
    | .join a b => do
      let x ← value p n a
      let y ← value p n b
      let f ← Doing.ask (·.conversion)
      return .text (x.toText f ++ y.toText f)
    | .relate r a b => do
      let x ← value p n a
      let y ← value p n b
      let f ← Doing.ask (·.conversion)
      return .ofBool (relates r (x.compare f y))
    | .fits negated a b => do
      let x ← value p n a
      let f ← Doing.ask (·.conversion)
      let e ← expressionOf p n b
      return .ofBool (fits e (x.toText f) != negated)
    | .contains table keys => do
      let vs ← values p n keys
      let key ← keyOfAll vs
      changeTable (← tableOf table) fun t => (.ofBool (t.contains key), t.asked key)
    | .not a => do return .ofBool !(← value p n a).holds
    | .opposite a => do return .number (← value p n a).toNumber.opposite
    | .positive a => do return .number (← value p n a).toNumber
    | .both a b => do
      if (← value p n a).holds then return .ofBool (← value p n b).holds
      else return .ofBool false
    | .either a b => do
      if (← value p n a).holds then return .ofBool true
      else return .ofBool (← value p n b).holds
    | .choose c a b => do
      if (← value p n c).holds then value p n a else value p n b
    | .call f args => call p n f args
    | .apply .search [text, .pattern e] => do
      let x ← value p n text
      search e (x.toText (← Doing.ask (·.conversion)))
    | .apply t args => do
      let vs ← values p n args
      apply t vs
    | .split text table separator => do
      let v ← value p n text
      let how : Separator ← match separator with
        | none => Doing.separator (← Doing.ask fun s => s.text "FS")
        | some (.pattern e) => pure (if e matches .empty then .each else .expression e)
        | some t => do
          let sv ← value p n t
          Doing.separator (sv.toText (← Doing.ask (·.conversion)))
      let f ← Doing.ask (·.conversion)
      let found := State.parts how (v.toText f)
      changeTable (← tableOf table) fun _ =>
        (.ofInt found.length, .ofRow (found.map Value.given))
    | .replace all pattern new place => do
      let e ← expressionOf p n pattern
      let f ← Doing.ask (·.conversion)
      let new := (← value p n new).toText f
      let l ← match place with
        | some place => location p n place
        | none => pure (.field 0)
      let old := (← load l).toText f
      let (text, count) := e.replaced all new old
      if 0 < count then store l (.text text)
      return .ofInt count
    | .size name => do
      let t ← tableOf name
      let size ← Doing.ask fun s => (s.tables[t]?.getD default).size
      if 0 < size then return .ofInt size
      else
        let v ← nameValue name
        return .ofInt (v.toText (← Doing.ask (·.conversion))).length
    | .read origin into => do
      let found : Option (Option Bytes) ← match origin with
        | none => do pure (some (← Stream.nextRecord p))
        | some (origin, t) => do
          let name := (← value p n t).toText (← Doing.ask (·.conversion))
          Stream.recordFrom (origin = .command) name
      match found with
      | none => return .ofInt (-1)
      | some none => return .ofInt 0
      | some (some record) => do
        let l ← match into with
          | some place => location p n place
          | none => pure (.field 0)
        store l (.given record)
        return .ofInt 1

/-- The values of terms. -/
def values (p : Program) : Nat → List Term → Doing (List Value)
  | 0, _ => tooDeep
  | _, [] => pure []
  | n + 1, t :: ts => do
    let v ← value p n t
    let vs ← values p n ts
    return v :: vs

/-- The location of a place. -/
def location (p : Program) : Nat → Place → Doing Location
  | 0, _ => tooDeep
  | n + 1, place =>
    match place with
    | .name name => pure (.name name)
    | .field t => do
      let i := wholeOf (← value p n t).toNumber
      if i < 0 then Doing.fault ("negative field index $".toList ++ decimal i)
      else return .field i.toNat
    | .cell table keys => do
      let vs ← values p n keys
      let key ← keyOfAll vs
      return .cell (← tableOf table) key

/-- The expression that a term stands for. -/
def expressionOf (p : Program) : Nat → Term → Doing Expression
  | 0, _ => tooDeep
  | n + 1, t =>
    match t with
    | .pattern e => pure e
    | t => do
      let v ← value p n t
      Doing.expression (v.toText (← Doing.ask (·.conversion)))

/-- What functions are given: values, and tables under their numbers. Tables that are not given are
new. -/
def slots (p : Program) : Nat → List Bool → List Term → Doing (List Slot)
  | 0, _, _ => tooDeep
  | _, [], _ => pure []
  | n + 1, isTable :: more, args => do
    let slot : Slot ← match isTable, args with
      | true, .place (.name name) :: _ => do pure (.table (← tableOf name))
      | true, _ => Doing.alter fun s =>
        (.table s.tables.size, { s with tables := s.tables.push default })
      | false, t :: _ => do pure (.value (← value p n t))
      | false, [] => pure (.value .unset)
    let rest ← slots p n more args.tail
    return slot :: rest

/-- Calls a function. -/
def call (p : Program) : Nat → Nat → List Term → Doing Value
  | 0, _, _ => tooDeep
  | n + 1, f, args => do
    let f := p.functions[f]?.getD default
    let size ← Doing.ask (·.tables.size)
    let found ← slots p n f.tables.toList args
    let (before, depth) ← Doing.ask fun s => (s.frame, s.depth)
    if mostDepth < depth + found.length + 1 then tooDeep
    else
      Doing.change fun s =>
        { s with frame := found.toArray, depth := depth + found.length + 1 }
      let v ← Doing.orElse (do
          run p n f.body
          return .unset) fun l =>
        match l with
        | .answer v => pure v
        | l => Doing.leave l
      Doing.change fun s =>
        { s with frame := before, depth := depth, tables := s.tables.extract 0 size }
      return v

/-- Where printed text goes. -/
def targetOf (p : Program) : Nat → Option (Opening × Term) → Doing (Option (Opening × Bytes))
  | 0, _ => tooDeep
  | _, none => pure none
  | n + 1, some (opening, t) => do
    let v ← value p n t
    return some (opening, v.toText (← Doing.ask (·.conversion)))

/-- Carries out a statement. -/
def run (p : Program) : Nat → Statement → Doing Unit
  | 0, _ => tooDeep
  | n + 1, s =>
    match s with
    | .block ss => Doing.forEach (fun s => do
        run p n s
        return true) ss
    | .term t => do
      let _ ← value p n t
      return ()
    | .print args target => do
      let vs ← if args.isEmpty then do pure [← load (.field 0)] else values p n args
      let target ← targetOf p n target
      let text ← Doing.ask fun s =>
        let f := s.format "OFMT"
        (s.text "OFS").intercalate (vs.map (·.toText f)) ++ s.text "ORS"
      Stream.write target text
    | .layout args target => do
      let vs ← values p n args
      let f ← Doing.ask (·.conversion)
      let format := (vs.headD .unset).toText f
      let target ← targetOf p n target
      let (text, fault) := Layout.print f false format vs.tail
      Stream.write target text
      match fault with
      | none => return ()
      | some e => Doing.fault (e.message "printf" format)
    | .branch c yes no => do
      if (← value p n c).holds then run p n yes
      else match no with
        | some no => run p n no
        | none => return ()
    | .loop c body => Doing.rounds (do
        if (← value p n c).holds then round p n body else return false) rounds
    | .loopOnce body c => Doing.rounds (do
        if ← round p n body then return (← value p n c).holds else return false) rounds
    | .steps first c next body => do
      match first with
      | some t => do let _ ← value p n t
      | none => pure ()
      Doing.rounds (do
        let goesOn ← match c with
          | some c => do pure (← value p n c).holds
          | none => pure true
        if goesOn then
          if ← round p n body then
            match next with
            | some t => do let _ ← value p n t
            | none => pure ()
            return true
          else return false
        else return false) rounds
    | .each v table body => do
      let keys ← changeTable (← tableOf table) Table.list
      Doing.forEach (fun key => do
        store (.name v) (.text key)
        round p n body) keys
    | .delete table keys => do
      let t ← tableOf table
      match keys with
      | none => changeTable t fun _ => ((), default)
      | some keys => do
        let vs ← values p n keys
        let key ← keyOfAll vs
        changeTable t fun t => ((), t.erase key)
    | .next => Doing.leave .next
    | .nextFile => Doing.leave .nextFile
    | .leave => Doing.leave .leave
    | .again => Doing.leave .again
    | .stop status => do
      match status with
      | some t => do
        let x := (← value p n t).toNumber
        Doing.change fun s => { s with status := (wholeOf x % 256).toNat }
      | none => pure ()
      Doing.leave .stop
    | .answer t => do
      let v ← match t with
        | some t => value p n t
        | none => pure .unset
      Doing.leave (.answer v)

/-- Carries out the body of a loop, and says whether the loop goes on. -/
def round (p : Program) : Nat → Statement → Doing Bool
  | 0, _ => tooDeep
  | n + 1, s => Doing.orElse (do
      run p n s
      return true) fun l =>
    match l with
    | .leave => pure false
    | .again => pure true
    | l => Doing.leave l

end

/-! ## Programs -/

/-- How deep terms and statements may lie in each other. -/
def mostNesting : Nat := 100000

/-- Carries out something that may stop the program, and says whether that goes on. -/
def goesOn (x : Doing Unit) : Doing Bool :=
  Doing.orElse (do
    x
    return true) fun l =>
    match l with
    | .stop => pure false
    | l => Doing.leave l

/-- Is a rule carried out for the record? -/
def isDue (p : Program) (i : Nat) (o : Occasion) : Doing Bool := do
  let holds (t : Term) : Doing Bool := do return (← value p mostNesting t).holds
  match o with
  | .always => return true
  | .when t => holds t
  | .between first last => do
    let isOpen ← Doing.ask fun s => s.ranges[i]?.getD false
    let isDue ← if isOpen then pure true else holds first
    if isDue then
      let isLast ← holds last
      Doing.change fun s => { s with ranges := s.ranges.setIfInBounds i (!isLast) }
    return isDue

/-- Carries out the rules for the record. -/
def runRules (p : Program) : Doing Unit :=
  Doing.forEach (fun (i, rule) => do
    if ← isDue p i rule.occasion then run p mostNesting rule.body
    return true) (p.rules.mapIdx fun i rule => (i, rule))

/-- Carries out the rules for each record of the input. -/
def runRecords (p : Program) : Doing Unit :=
  Doing.rounds (do
    match ← Stream.nextRecord p with
    | none => return false
    | some record => do
      store (.field 0) (.given record)
      Doing.orElse (do
        runRules p
        return true) fun l =>
        match l with
        | .next => pure true
        | .nextFile => do
          Stream.leaveFile
          return true
        | l => Doing.leave l) rounds

/-- Carries out a program. -/
def scan (p : Program) : Doing Unit := do
  let runAll (ss : List Statement) : Doing Unit := Doing.forEach (fun s => do
    run p mostNesting s
    return true) ss
  let started ← goesOn (runAll p.first)
  if started && !(p.rules.isEmpty && p.last.isEmpty) then
    discard (goesOn (runRecords p))
  discard (goesOn (runAll p.last))

/-- Carries out a program, and closes all that it opened. -/
def scanAndClose (p : Program) : Doing Unit := do
  Doing.orElse (scan p) fun _ => pure ()
  Stream.settleInput
  Stream.closeAll

/-- What a program plans whose computation has an outcome. -/
def plan : Outcome Unit → Plan
  | .done () s | .left _ s => .act (set s.scene) fun _ => .finish s.status
  | .waits r s next => .act (set s.scene) fun scene =>
    let words := ["/bin/sh".toList, "-c".toList, r.command]
    let start : Start := { Start.inScene scene words with input := r.input }
    let goOn (e : Ending) (text : Bytes) : Plan :=
      .act (pure ()) fun scene => plan (next e text { s with scene := scene })
    if r.collected then .collect start goOn else .start start fun e => goOn e []

end ActionTree.Sh.Scan.Evaluation
