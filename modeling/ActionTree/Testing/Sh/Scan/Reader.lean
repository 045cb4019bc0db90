import ActionTree.Testing.Sh.Scan.Token

/-!
# Reading scanning programs

A program is read from its tokens. Behind an error the text is read on from the next end of a
statement, so that more than one error may be found.

* `Reading.program`: the program that a text is.
* `Reading.Kind`: what a name stands for.
-/

namespace ActionTree.Sh.Scan

namespace Reading

/-- What a name stands for, as far as it is known. -/
inductive Kind where
  | open
  | value
  | table
  deriving DecidableEq

/-- A function as far as it was read. -/
structure Draft where
  name : Bytes
  /-- Its parameters, and what they stand for. -/
  params : Array Bytes
  kinds : Array Kind
  body : Option Statement

instance : Inhabited Draft := ⟨⟨[], #[], #[], none⟩⟩

/-- A call: where it stands, and the names that are given to the function as they are. -/
structure Call where
  place : Nat
  line : Nat
  function : Nat
  /-- The function in which it stands. -/
  inside : Option Nat
  /-- For each argument its name if it is one. -/
  args : List (Option Name)

/-- What is read, and what was found so far. -/
structure State where
  tokens : Array Lexeme
  place : Nat
  names : Array Bytes
  kinds : Array Kind
  functions : Array Draft
  /-- The function that is read. -/
  inside : Option Nat
  loops : Nat
  /-- Is a rule for records read? -/
  scanning : Bool
  calls : List Call
  faults : List Fault

/-- A computation that reads; an error leaves what was found. -/
abbrev Reader (α : Type) := ExceptT Unit (StateM State) α

/-! ## Tokens -/

/-- The token that comes next. Behind the last one there is nothing. -/
def peekAt (k : Nat) : Reader Token := do
  let s ← get
  return (s.tokens[s.place + k]?.map (·.token)).getD .finish

/-- The next token. -/
def peek : Reader Token := peekAt 0

/-- Goes on behind a token. -/
def advance : Reader Unit := modify fun s => { s with place := s.place + 1 }

/-- Finds a flaw at the next token. -/
def find (f : Flaw) : Reader Unit :=
  modify fun s =>
    match s.tokens[s.place]? with
    | some t => { s with faults := ⟨s.place, t.line, f⟩ :: s.faults }
    | none => s

/-- Finds a flaw at the token before the next one. -/
def findBefore (f : Flaw) : Reader Unit :=
  modify fun s =>
    match s.tokens[s.place - 1]? with
    | some t => { s with faults := ⟨s.place, t.line, f⟩ :: s.faults }
    | none => s

/-- The next token is out of place. -/
def fail {α : Type} : Reader α := do
  let s ← get
  if let some t := s.tokens[s.place]? then
    let ends := t.token = .sign ";" || t.token = .feed || t.token = .implied
    let starts := t.token = .finish || t.token = .sign "BEGIN" || t.token = .sign "END"
    find (match t.token with
      | .unexpected c => .unexpected c
      | token =>
        if ends && 0 < t.parens then .missing ')' token.shown
        else if starts && 0 < t.braces then .missing '\x7d' token.shown
        else .near token.shown)
  throw ()

/-- Goes on behind a sign if it comes next. -/
def accept (sign : String) : Reader Bool := do
  if (← peek) = .sign sign then
    advance
    return true
  else return false

/-- Goes on behind a sign, which has to come next. -/
def expect (sign : String) : Reader Unit := do
  if !(← accept sign) then fail

/-- Is the token the end of a statement? -/
def isEnd (t : Token) : Bool := t = .sign ";" || t = .feed || t = .implied

/-- Goes on behind the end of a statement. -/
def separator : Reader Unit := do
  if isEnd (← peek) then
    advance
    if (← peek) = .feed then advance
  else fail

/-- Goes on behind the end of a line, if it comes next. -/
def pastFeed : Reader Unit := do
  if (← peek) = .feed then advance

/-! ## Names -/

/-- The number of a variable of the program. -/
def shared (cs : Bytes) : Reader Nat := do
  let s ← get
  match s.names.idxOf? cs with
  | some i => return i
  | none => do
    set { s with names := s.names.push cs, kinds := s.kinds.push .open }
    return s.names.size

/-- The variable that a name stands for: one of the function that is read, or one of the program. -/
def resolve (cs : Bytes) : Reader Name := do
  let s ← get
  let own := s.inside.bind fun f => (s.functions[f]?.getD default).params.idxOf? cs
  match own with
  | some i => return .own i
  | none => return .shared (← shared cs)

/-- What a variable stands for. -/
def kindIn (s : State) (inside : Option Nat) : Name → Kind
  | .shared i => s.kinds[i]?.getD .open
  | .own i => (inside.bind fun f => (s.functions[f]?.getD default).kinds[i]?).getD .open

/-- Sets what a variable stands for. -/
def withKind (s : State) (inside : Option Nat) (n : Name) (k : Kind) : State :=
  match n, inside with
  | .shared i, _ => { s with kinds := s.kinds.setIfInBounds i k }
  | .own i, some f => { s with functions := s.functions.modify f fun d =>
      { d with kinds := d.kinds.setIfInBounds i k } }
  | .own _, none => s

/-- Uses a variable as a value or as a table. -/
def use (n : Name) (cs : Bytes) (k : Kind) : Reader Unit := do
  let s ← get
  let known := kindIn s s.inside n
  if known = .open then set (withKind s s.inside n k)
  else if known ≠ k then
    let what := if known = .table then "array" else "variable"
    find (.illegal (if n matches .own _ then "local " ++ what else what) cs)

/-- The number of a function. -/
def functionNumber (cs : Bytes) : Reader Nat := do
  let s ← get
  match s.functions.findIdx? (·.name = cs) with
  | some i => return i
  | none => do
    set { s with functions := s.functions.push ⟨cs, #[], #[], none⟩ }
    return s.functions.size

/-- The next token as the name of a table, and its variable. -/
def tableName : Reader Name := do
  match ← peek with
  | .name cs => do
    let n ← resolve cs
    use n cs .table
    advance
    return n
  | _ => fail

/-- The expression that a text is. -/
def expression (cs : Bytes) : Reader Expression := do
  match Expression.scanned cs with
  | .ok e => return e
  | .error f => do
    findBefore (.expression f cs)
    return .empty

/-! ## Terms -/

/-- The calculations with an assignment. -/
def updates : List (String × Calculation) :=
  [("+=", .plus), ("-=", .minus), ("*=", .times), ("/=", .quotient), ("%=", .rest), ("^=", .power)]

/-- The signs for orders. -/
def relations : List (String × Relation) :=
  [("<", .less), ("<=", .atMost), ("==", .equal), ("!=", .unequal), (">=", .atLeast),
    (">", .more)]

/-- May a term start with the token that is joined to the one before it? -/
def startsOperand : Token → Bool
  | .number .. | .text _ | .pattern _ | .name _ | .function _ | .tool .. => true
  | .sign s => ["$", "!", "(", "++", "--", "getline", "split", "sub", "gsub"].contains s
  | _ => false

/-- May the token start a term? -/
def startsTerm (t : Token) : Bool := startsOperand t || t = .sign "-" || t = .sign "+"

/-- How many arguments a function takes, at least and at most. -/
def arity : Tool → Nat × Nat
  | .angle | .position | .search => (2, 2)
  | .part => (2, 3)
  | .random | .clock => (0, 0)
  | .seed | .flush => (0, 1)
  | .layout => (1, 255)
  | .moment => (0, 3)
  | _ => (1, 1)

/-- A place, if the term is one. -/
def place? : Term → Option Place
  | .place p => some p
  | _ => none

mutual

/-- A term. -/
def term : Nat → Reader Term
  | 0 => fail
  | n + 1 => do
    let condition ← either n
    if ← accept "?" then
      let yes ← term n
      expect ":"
      return .choose condition yes (← term n)
    else return condition

/-- Terms between `||`. -/
def either : Nat → Reader Term
  | 0 => fail
  | n + 1 => do eitherMore n (← both n)

/-- What follows a term between `||`. -/
def eitherMore : Nat → Term → Reader Term
  | 0, _ => fail
  | n + 1, t => do
    if ← accept "||" then eitherMore n (.either t (← both n)) else return t

/-- Terms between `&&`. -/
def both : Nat → Reader Term
  | 0 => fail
  | n + 1 => do bothMore n (← member n)

/-- What follows a term between `&&`. -/
def bothMore : Nat → Term → Reader Term
  | 0, _ => fail
  | n + 1, t => do
    if ← accept "&&" then bothMore n (.both t (← member n)) else return t

/-- A term that may be looked for in tables. -/
def member : Nat → Reader Term
  | 0 => fail
  | n + 1 => do memberMore n (← fitting n)

/-- The tables in which a term is looked for. -/
def memberMore : Nat → Term → Reader Term
  | 0, _ => fail
  | n + 1, t => do
    if ← accept "in" then memberMore n (.contains (← tableName) [t]) else return t

/-- A term that may be compared with expressions. -/
def fitting : Nat → Reader Term
  | 0 => fail
  | n + 1 => do fittingMore n (← related n)

/-- The expressions that a term is compared with. -/
def fittingMore : Nat → Term → Reader Term
  | 0, _ => fail
  | n + 1, t => do
    match ← peek with
    | .sign "~" => do
      advance
      fittingMore n (.fits false t (← constantPattern (← related n)))
    | .sign "!~" => do
      advance
      fittingMore n (.fits true t (← constantPattern (← related n)))
    | _ => return t

/-- Terms between signs for orders. -/
def related : Nat → Reader Term
  | 0 => fail
  | n + 1 => do relatedMore n (← joined n)

/-- What follows a term between signs for orders. -/
def relatedMore : Nat → Term → Reader Term
  | 0, _ => fail
  | n + 1, t => do
    match ← peek with
    | .sign s =>
      match relations.find? (·.1 = s) with
      | some (_, r) => do
        advance
        relatedMore n (.relate r t (← joined n))
      | none => return t
    | _ => return t

/-- An assignment, or terms that are joined. -/
def joined : Nat → Reader Term
  | 0 => fail
  | n + 1 => do
    let t ← sum n
    match place? t, ← peek with
    | some p, .sign "=" => do
      advance
      return .assign p (← term n)
    | some p, .sign s =>
      match updates.find? (·.1 = s) with
      | some (_, c) => do
        advance
        return .update c p (← term n)
      | none => joinedMore n t
    | _, _ => joinedMore n t

/-- The terms that are joined to one. -/
def joinedMore : Nat → Term → Reader Term
  | 0, _ => fail
  | n + 1, t => do
    if startsOperand (← peek) then joinedMore n (.join t (← sum n)) else return t

/-- A sum. -/
def sum : Nat → Reader Term
  | 0 => fail
  | n + 1 => do sumMore n (← product n)

/-- What follows a term of a sum. -/
def sumMore : Nat → Term → Reader Term
  | 0, _ => fail
  | n + 1, t => do
    if ← accept "+" then sumMore n (.calculate .plus t (← product n))
    else if ← accept "-" then sumMore n (.calculate .minus t (← product n))
    else return t

/-- A product. -/
def product : Nat → Reader Term
  | 0 => fail
  | n + 1 => do productMore n (← signed n)

/-- What follows a factor. -/
def productMore : Nat → Term → Reader Term
  | 0, _ => fail
  | n + 1, t => do
    if ← accept "*" then productMore n (.calculate .times t (← signed n))
    else if ← accept "/" then productMore n (.calculate .quotient t (← signed n))
    else if ← accept "%" then productMore n (.calculate .rest t (← signed n))
    else return t

/-- A term with signs in front. -/
def signed : Nat → Reader Term
  | 0 => fail
  | n + 1 => do
    if ← accept "!" then return .not (← signed n)
    else if ← accept "-" then return .opposite (← signed n)
    else if ← accept "+" then return .positive (← signed n)
    else piped n (← power n)

/-- A command whose output is read, perhaps. -/
def piped : Nat → Term → Reader Term
  | 0, _ => fail
  | n + 1, t => do
    if ← accept "|" then
      expect "getline"
      piped n (.read (some (.command, t)) (← target n))
    else return t

/-- A power. -/
def power : Nat → Reader Term
  | 0 => fail
  | n + 1 => do
    let t ← counted n
    if ← accept "^" then return .calculate .power t (← exponent n) else return t

/-- What stands behind the sign of a power. -/
def exponent : Nat → Reader Term
  | 0 => fail
  | n + 1 => do
    if ← accept "-" then return .opposite (← exponent n)
    else if ← accept "+" then return .positive (← exponent n)
    else if ← accept "!" then return .not (← exponent n)
    else power n

/-- A place that is counted, or another simple term. -/
def counted : Nat → Reader Term
  | 0 => fail
  | n + 1 => do
    let t ← simple n
    match place? t, ← peek with
    | some p, .sign "++" => do
      advance
      return .count p true false
    | some p, .sign "--" => do
      advance
      return .count p false false
    | _, _ => return t

/-- The place that a record is read into, if one is given. -/
def target : Nat → Reader (Option Place)
  | 0 => fail
  | n + 1 => do
    match ← peek with
    | .name _ | .sign "$" => return place? (← simple n)
    | _ => return none

/-- A place, which has to come next. -/
def place : Nat → Reader Place
  | 0 => fail
  | n + 1 => do
    match ← peek with
    | .name _ | .sign "$" =>
      match place? (← simple n) with
      | some p => return p
      | none => fail
    | .sign "(" => do
      advance
      let p ← place n
      expect ")"
      return p
    | _ => fail

/-- The number of a field. If it is a field itself or counts the fields, a sign that counts belongs
to it. -/
def fieldNumber : Nat → Reader Term
  | 0 => fail
  | n + 1 => do
    if ← accept "-" then return .opposite (← fieldNumber n)
    else if ← accept "+" then return .positive (← fieldNumber n)
    else if ← accept "!" then return .not (← fieldNumber n)
    else
      let next ← peek
      if next = .sign "$" || next = .name "NF".toList then counted n else simple n

/-- Terms between commas. -/
def terms : Nat → Reader (List Term)
  | 0 => fail
  | n + 1 => do
    let t ← term n
    if ← accept "," then return t :: (← terms n) else return [t]

/-- The arguments of a function of the program; names are left as they are. -/
def arguments : Nat → Reader (List (Term × Option (Name × Bytes)))
  | 0 => fail
  | n + 1 => do
    let next ← peekAt 1
    let arg : Term × Option (Name × Bytes) ← match ← peek with
      | .name cs =>
        if next = .sign "," || next = .sign ")" then
          advance
          let name ← resolve cs
          pure (.place (.name name), some (name, cs))
        else pure (← term n, none)
      | _ => pure (← term n, none)
    if ← accept "," then return arg :: (← arguments n) else return [arg]

/-- A term without operators. -/
def simple : Nat → Reader Term
  | 0 => fail
  | n + 1 => do
    match ← peek with
    | .number x _ => do
      advance
      return .number x
    | .text cs => do
      advance
      return .text cs
    | .pattern cs => do
      advance
      return .pattern (← expression cs)
    | .name cs => do
      let name ← resolve cs
      if (← peekAt 1) = .sign "[" then
        use name cs .table
        advance
        advance
        let keys ← terms n
        expect "]"
        return .place (.cell name keys)
      else
        use name cs .value
        advance
        return .place (.name name)
    | .function cs => do
      let here ← get
      let f ← functionNumber cs
      advance
      expect "("
      let args ← if (← peek) = .sign ")" then pure [] else arguments n
      let line := (here.tokens[here.place]?.getD default).line
      let call : Call := ⟨here.place, line, f, here.inside, args.map fun a => a.2.map (·.1)⟩
      modify fun s => { s with calls := call :: s.calls }
      expect ")"
      return .call f (args.map (·.1))
    | .tool .length _ => do
      advance
      if ← accept "(" then
        if ← accept ")" then return .apply .length [.place (.field (.number (.zero false)))]
        else
          match ← peek, ← peekAt 1 with
          | .name cs, .sign ")" => do
            let name ← resolve cs
            advance
            advance
            return .size name
          | _, _ => do
            let t ← term n
            expect ")"
            return .apply .length [t]
      else return .apply .length [.place (.field (.number (.zero false)))]
    | .tool t name => do
      advance
      expect "("
      let args ← if (← peek) = .sign ")" then pure [] else terms n
      let (least, most) := arity t
      let (args, isWrong) : List Term × Bool :=
        if args.length < least || most < args.length then ([], true) else (args, false)
      if isWrong then find (.wrongCount name)
      expect ")"
      let args ← match t, args with
        | .search, [text, e] => pure [text, ← constantPattern e]
        | _, args => pure args
      return .apply t args
    | .sign "split" => do
      advance
      expect "("
      let text ← term n
      expect ","
      let table ← tableName
      let separator ← if ← accept "," then pure (some (← term n)) else pure none
      expect ")"
      return .split text table separator
    | .sign "sub" => substitution n false
    | .sign "gsub" => substitution n true
    | .sign "getline" => do
      advance
      let into ← target n
      if ← accept "<" then return .read (some (.file, ← power n)) into
      else return .read none into
    | .sign "$" => do
      advance
      return .place (.field (← fieldNumber n))
    | .sign "++" => do
      advance
      return .count (← place n) true true
    | .sign "--" => do
      advance
      return .count (← place n) false true
    | .sign "-" => do
      advance
      return .opposite (← simple n)
    | .sign "(" => do
      advance
      match ← terms n with
      | [t] => do
        expect ")"
        return t
      | keys => do
        expect ")"
        expect "in"
        return .contains (← tableName) keys
    | _ => fail

/-- A replacement. -/
def substitution : Nat → Bool → Reader Term
  | 0, _ => fail
  | n + 1, all => do
    advance
    expect "("
    let e ← constantPattern (← term n)
    expect ","
    let new ← term n
    let into ← if ← accept "," then pure (some (← place n)) else pure none
    expect ")"
    return .replace all e new into

/-- An expression that is given as a text is read at once. -/
def constantPattern : Term → Reader Term
  | .text cs => return .pattern (← expression cs)
  | t => return t

end

/-! ## Statements -/

/-- The target of what is printed. -/
def output (n : Nat) : Reader (Option (Opening × Term)) := do
  match ← peek with
  | .output o _ => do
    advance
    return some (o, ← term n)
  | _ => return none

/-- What is printed: terms, perhaps between parentheses. -/
def printed (n : Nat) : Reader (List Term) := do
  let isDone (t : Token) : Bool := isEnd t || t matches .output ..
  if isDone (← peek) then return []
  let before ← get
  if ← accept "(" then
    let args ← if (← peek) = .sign ")" then pure [] else terms n
    if (← peek) = .sign ")" && isDone (← peekAt 1) then
      advance
      return args
    set before
  terms n

/-- Does a loop over the keys of a table start here, behind its parenthesis? -/
def startsEach : Reader Bool := do
  match ← peek, ← peekAt 1, ← peekAt 2, ← peekAt 3 with
  | .name _, .sign "in", .name _, .sign ")" => return true
  | _, _, _, _ => return false

/-- Reads something within a loop. -/
def inLoop {α : Type} (x : Reader α) : Reader α := do
  let before := (← get).loops
  modify fun s => { s with loops := before + 1 }
  let a ← x
  modify fun s => { s with loops := before }
  return a

/-- Goes on behind the next end of a statement. -/
def skip : Nat → Reader Unit
  | 0 => fail
  | n + 1 => do
    let t ← peek
    if isEnd t then separator
    else if t = .finish then fail
    else
      advance
      skip n

/-- Goes on behind an error in a statement. -/
def recover : Reader Statement := do
  let s ← get
  if s.tokens.size ≤ s.place || 5 ≤ s.faults.length || (← peek) = .finish then throw ()
  skip (s.tokens.size + 1)
  return .block []

mutual

/-- A statement. -/
def statement : Nat → Reader Statement
  | 0 => fail
  | n + 1 => tryCatch (wholeStatement n) fun () => recover

/-- A statement without an error. -/
def wholeStatement : Nat → Reader Statement
  | 0 => fail
  | n + 1 => do
    let t ← peek
    if isEnd t then
      separator
      return .block []
    match t with
    | .sign "\x7b" => do
      advance
      return .block (← block n)
    | .sign "if" => do
      advance
      let c ← condition n
      pastFeed
      let yes ← statement n
      if ← accept "else" then
        pastFeed
        return .branch c yes (some (← statement n))
      else return .branch c yes none
    | .sign "while" => do
      advance
      let c ← condition n
      pastFeed
      return .loop c (← inLoop (statement n))
    | .sign "do" => do
      advance
      pastFeed
      let body ← inLoop (statement n)
      expect "while"
      let c ← condition n
      separator
      return .loopOnce body c
    | .sign "for" => do
      advance
      expect "("
      if ← startsEach then
        match ← peek with
        | .name cs => do
          let v ← resolve cs
          use v cs .value
          advance
          expect "in"
          let table ← tableName
          expect ")"
          pastFeed
          return .each v table (← inLoop (statement n))
        | _ => fail
      else
        let part (end_ : String) : Reader (Option Term) := do
          if ← accept end_ then return none
          else
            let t ← term n
            expect end_
            return some t
        let first ← part ";"
        let c ← part ";"
        let next ← part ")"
        pastFeed
        return .steps first c next (← inLoop (statement n))
    | .sign "break" => leaving .leave "break"
    | .sign "continue" => leaving .again "continue"
    | .sign "next" => passing .next "next"
    | .sign "nextfile" => passing .nextFile "nextfile"
    | .sign "exit" => do
      advance
      let status ← optional n
      separator
      return .stop status
    | .sign "return" => do
      if (← get).inside.isNone then find .noFunction
      advance
      let value ← optional n
      separator
      return .answer value
    | .sign "delete" => do
      advance
      let table ← tableName
      let keys ← if ← accept "[" then do
          let keys ← terms n
          expect "]"
          pure (some keys)
        else pure none
      separator
      return .delete table keys
    | .sign "print" => do
      advance
      let args ← printed n
      let target ← output n
      separator
      return .print args target
    | .sign "printf" => do
      advance
      let args ← printed n
      if args.isEmpty then find .noArguments
      let target ← output n
      separator
      return .layout args target
    | _ => do
      let t ← term n
      separator
      return .term t

/-- A condition between parentheses. -/
def condition : Nat → Reader Term
  | 0 => fail
  | n + 1 => do
    expect "("
    let t ← term n
    expect ")"
    return t

/-- A term, if one comes next. -/
def optional : Nat → Reader (Option Term)
  | 0 => fail
  | n + 1 => do
    if startsTerm (← peek) then return some (← term n) else return none

/-- A statement that leaves a loop. -/
def leaving (s : Statement) (word : String) : Reader Statement := do
  let reached ← get
  if reached.loops = 0 && reached.faults.isEmpty then find (.noLoop word)
  advance
  separator
  return s

/-- A statement that goes on with other records. -/
def passing (s : Statement) (word : String) : Reader Statement := do
  if !(← get).scanning then find (.improper word)
  advance
  separator
  return s

/-- The statements of a block up to its end. -/
def block : Nat → Reader (List Statement)
  | 0 => fail
  | n + 1 => do
    if ← accept "\x7d" then return []
    let s ← statement n
    return s :: (← block n)

end

/-! ## Programs -/

/-- The parts of a program that were read, the latest first. -/
structure Parts where
  first : List Statement
  rules : List Rule
  last : List Statement

/-- A block behind its brace. -/
def body (n : Nat) (scanning : Bool) : Reader Statement := do
  modify fun s => { s with scanning := scanning, loops := 0 }
  expect "\x7b"
  return .block (← block n)

/-- The names of parameters. -/
def params : Nat → Array Bytes → Reader (Array Bytes)
  | 0, _ => fail
  | n + 1, done => do
    match ← peek with
    | .name cs => do
      if done.contains cs then find (.twice cs)
      advance
      if ← accept "," then params n (done.push cs) else return done.push cs
    | _ => if done.isEmpty then return done else fail

/-- A function behind its word. -/
def function (n : Nat) : Reader Unit := do
  match ← peek with
  | .function cs => do
    let s ← get
    if s.names.contains cs then find (.illegal "variable" cs)
    let f ← functionNumber cs
    if ((← get).functions[f]?.getD default).body.isSome then find (.redefined cs)
    advance
    expect "("
    let names ← params n #[]
    expect ")"
    pastFeed
    modify fun s => { s with
      functions := s.functions.modify f fun d =>
        { d with params := names, kinds := names.map fun _ => .open, body := some default }
      inside := some f }
    let b ← body n false
    modify fun s => { s with
      functions := s.functions.modify f fun d => { d with body := some b }
      inside := none }
  | _ => fail

/-- One part of a program behind those before it. -/
def part (n : Nat) (p : Parts) : Reader Parts := do
  modify fun s => { s with inside := none, scanning := true, loops := 0 }
  match ← peek with
  | .sign "BEGIN" => do
    advance
    return { p with first := (← body n false) :: p.first }
  | .sign "END" => do
    advance
    return { p with last := (← body n false) :: p.last }
  | .sign "function" => do
    advance
    function n
    return p
  | .sign "\x7b" => return { p with rules := ⟨.always, ← body n true⟩ :: p.rules }
  | _ => do
    let first ← term n
    let occasion ← if ← accept "," then do pure (.between first (← term n)) else pure (.when first)
    let b ← if (← peek) = .sign "\x7b" then body n true
      else do
        separator
        pure (.print [] none)
    return { p with rules := ⟨occasion, b⟩ :: p.rules }

/-- All parts of a program, of which there are at most so many. -/
def allParts (size : Nat) : Nat → Parts → Reader Parts
  | 0, p => return p
  | n + 1, p => do
    let s ← get
    if (← peek) = .finish || s.tokens.size ≤ s.place then return p
    allParts size n (← part size p)

/-! ## What names stand for -/

/-- What is learnt from one call: a name that is given to a function stands for what its parameter
stands for. -/
def learn (s : State) (c : Call) : State :=
  let step (s : State) (i : Nat) (n : Name) : State :=
    let given := kindIn s c.inside n
    let wanted := kindIn s (some c.function) (.own i)
    if given = .open && wanted ≠ .open then withKind s c.inside n wanted
    else if given ≠ .open && wanted = .open then withKind s (some c.function) (.own i) given
    else s
  (c.args.mapIdx fun i a => (i, a)).foldl (fun s (i, a) => match a with
    | some n => step s i n
    | none => s) s

/-- What is wrong with a call. -/
def check (s : State) (c : Call) : List Fault :=
  let f := s.functions[c.function]?.getD default
  let say (flaw : Flaw) : Fault := ⟨c.place, c.line, flaw⟩
  if f.body.isNone then
    let line := (s.tokens.back?.getD default).line
    [⟨s.tokens.size, line, .undefined f.name⟩]
  else if f.params.size < c.args.length then [say (.tooMany f.name)]
  else
    (c.args.mapIdx fun i a => (i, a)).filterMap fun (i, a) =>
      let wanted := kindIn s (some c.function) (.own i)
      let given := match a with
        | some n => kindIn s c.inside n
        | none => .value
      if given ≠ .open && wanted ≠ .open && given ≠ wanted then
        some (say (.mismatch (i + 1) f.name (given = .table)))
      else none

/-- What is learnt from all calls, in so many rounds. -/
def learnAll (calls : List Call) : Nat → State → State
  | 0, s => s
  | n + 1, s => learnAll calls n (calls.foldl learn s)

/-- The program that a text is, or what is wrong with it. -/
def program (cs : Bytes) : Except (List Fault) Program :=
  let cs := if cs.getLast? = some '\n' then cs else cs ++ ['\n']
  let (tokens, faults) := Lexing.readAll cs
  let start : State :=
    { tokens := tokens, place := 0
      names := (settings.map String.toList).toArray
      kinds := (settings.map fun s =>
        if s = "ENVIRON" || s = "ARGV" then Kind.table else Kind.value).toArray
      functions := #[], inside := none, loops := 0, scanning := true, calls := [], faults := [] }
  let size := 20 * tokens.size + 40
  let (parts, s) := (allParts size tokens.size ⟨[], [], []⟩).run start
  let calls := s.calls.reverse
  let s := if s.faults.isEmpty then learnAll calls (calls.length + 1) s else s
  let isWhole := (tokens.back?.map (·.token)) = some .finish
  let checks := if s.faults.isEmpty && isWhole then calls.flatMap (check s) else []
  let all := faults ++ s.faults.reverse ++ checks
  match parts, all with
  | .ok p, [] => .ok
      { first := p.first.reverse, rules := p.rules.reverse, last := p.last.reverse
        functions := s.functions.map fun d =>
          ⟨d.name, d.kinds.map (· = .table), d.body.getD default⟩
        names := s.names }
  | _, all => .error ((all.mergeSort fun a b => a.place ≤ b.place).take 5)

end Reading

end ActionTree.Sh.Scan
