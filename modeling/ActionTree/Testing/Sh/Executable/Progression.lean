import ActionTree.Testing.Sh.Executable.Options

/-!
# Numbers in a row

`seq` prints numbers from a first one on in equal steps up to a last one. Numbers with a point are
exact decimals, so that no step is lost.

* `Progression.terms`: the numbers that are printed.
* `Progression.seq`: the program.
-/

namespace ActionTree.Sh.Progression

/-- A number: `units` parts of which a power of ten makes one, or an infinity. -/
inductive Quantity where
  | finite (units : Int) (places : Nat)
  | infinite (negative : Bool)

/-- An operand: its number, how many characters it takes up, and how many places it has behind the
point unless that is not known. -/
structure Operand where
  value : Quantity
  width : Int
  places : Option Nat

/-- Why an operand is no number. -/
inductive Fault where
  | invalid
  | undefined

/-- Numbers with greater exponents are not read. -/
def mostExponent : Nat := 5000

/-- A number with an exponent of ten. -/
def Quantity.scaled (negative : Bool) (n : Nat) (exponent : Int) : Quantity :=
  let sign : Int := if negative then -1 else 1
  if 0 ≤ exponent then .finite (sign * n * Nat.pow 10 exponent.toNat) 0
  else .finite (sign * n) exponent.natAbs

/-- The number that a text is. -/
def quantity? (cs : Bytes) : Except Fault Quantity :=
  let (negative, ds) : Bool × Bytes := match cs.dropWhile Arith.isSpace with
    | '-' :: ds => (true, ds)
    | '+' :: ds => (false, ds)
    | ds => (false, ds)
  let word := String.ofList (ds.map Char.toLower)
  let decimal : Except Fault Quantity := match Point.digits? 10 ds with
    | some (n, places, rest) =>
      let (e, out) := Point.exponent 'e' rest
      if out.isEmpty && e.natAbs ≤ mostExponent then .ok (.scaled negative n (e - places))
      else .error .invalid
    | none => .error .invalid
  if word = "inf" || word = "infinity" then .ok (.infinite negative)
  else if word = "nan" then .error .undefined
  else match ds with
    | '0' :: x :: hs =>
      if x = 'x' || x = 'X' then
        match Point.digits? 16 hs with
        | some (n, places, rest) =>
          let (e, out) := Point.exponent 'p' rest
          let e := e - 4 * places
          if !out.isEmpty || mostExponent < e.natAbs then .error .invalid
          else if 0 ≤ e then .ok (.scaled negative (n * Nat.pow 2 e.toNat) 0)
          else .ok (.scaled negative (n * Nat.pow 5 e.natAbs) e)
        | none => .error .invalid
      else decimal
    | _ => decimal

/-- The operand that a text is. -/
def operand? (arg : Bytes) : Except Fault Operand := do
  let value ← quantity? arg
  let cs := arg.dropWhile fun c => Arith.isSpace c || c = '+'
  let hasPoint := cs.contains '.'
  let isHex := cs.any fun c => c = 'x' || c = 'X'
  let start : Option Nat := if hasPoint || cs.contains 'p' then none else some 0
  match value, isHex with
  | .finite .., false =>
    let isE (c : Char) : Bool := c = 'e' || c = 'E'
    let whole := cs.takeWhile (· ≠ '.')
    let fraction := if hasPoint then ((cs.drop (whole.length + 1)).takeWhile (!isE ·)).length else 0
    let places := fraction
    let change : Int :=
      if !hasPoint then 0
      else if fraction = 0 then -1
      else if whole.getLast?.any Char.isDigit then 0 else 1
    let width : Int := cs.length + change
    if !cs.any isE then return ⟨value, width, some places⟩
    let head := (cs.takeWhile (!isE ·)).length
    let e := (Point.exponent 'e' (cs.drop head)).1
    let width := width - (cs.length - head : Int)
    if e < 0 then
      let width := if !hasPoint || fraction = 0 then width + 1 else width
      return ⟨value, width + e.natAbs, some (places + e.natAbs)⟩
    else
      let places := places - e.toNat
      let width := if hasPoint && places = 0 && 0 < fraction then width - 1 else width
      return ⟨value, width + (e.toNat - fraction : Nat), some places⟩
  | _, _ => return ⟨value, cs.length, start⟩

/-- The operand that a text is, or a message and the end of the program. -/
def operand (arg : Bytes) : Act Operand := do
  match operand? arg with
  | .ok o => return o
  | .error .invalid => Act.misuse ("invalid floating point argument: ".toList ++ visibly arg)
  | .error .undefined => Act.misuse ("invalid 'not-a-number' argument: ".toList ++ visibly arg)

/-! ## Formats -/

/-- How numbers are printed. -/
structure Style where
  front : Bytes
  conversion : Format.Conversion
  behind : Bytes

/-- What is wrong with a format. -/
inductive StyleFault where
  | noDirective
  | unfinished
  | unknown (c : Char)
  | tooMany

/-- What is said of a format with a fault. -/
def StyleFault.message (format : Bytes) : StyleFault → Bytes
  | .noDirective => "format ".toList ++ visibly format ++ " has no % directive".toList
  | .unfinished => "format ".toList ++ visibly format ++ " ends in %".toList
  | .unknown c =>
    "format ".toList ++ visibly format ++ " has unknown %".toList ++ c :: " directive".toList
  | .tooMany => "format ".toList ++ visibly format ++ " has too many % directives".toList

/-- Text in front of a directive, with two percent signs for one, and what is behind the sign of the
directive if there is one. -/
def plain : Bytes → Bytes × Option Bytes
  | [] => ([], none)
  | '%' :: '%' :: rest => let (text, more) := plain rest; ('%' :: text, more)
  | '%' :: rest => ([], some rest)
  | c :: rest => let (text, more) := plain rest; (c :: text, more)

/-- The style that a format is. -/
def style? (format : Bytes) : Except StyleFault Style :=
  match plain format with
  | (_, none) => .error .noDirective
  | (front, some rest) =>
    let signs := rest.takeWhile "-+#0 '".toList.contains
    let rest := rest.drop signs.length
    let width := rest.takeWhile Char.isDigit
    let rest := rest.drop width.length
    let (precision, rest) : Option Nat × Bytes := match rest with
      | '.' :: more =>
        let ds := more.takeWhile Char.isDigit
        (some (Text.number ds), more.drop ds.length)
      | rest => (none, rest)
    let rest := if rest.head? = some 'L' then rest.tail else rest
    match rest with
    | [] => .error .unfinished
    | kind :: rest =>
      if !"efgaEFGA".toList.contains kind then .error (.unknown kind)
      else match plain rest with
        | (_, some _) => .error .tooMany
        | (behind, none) =>
          let c : Format.Conversion :=
            { left := signs.contains '-', zero := signs.contains '0', plus := signs.contains '+'
              blank := signs.contains ' ', alternate := signs.contains '#'
              width := Text.number width, precision := precision, kind := kind }
          .ok ⟨front, c, behind⟩

/-- The style of numbers for which no format is given. -/
def usualStyle (equal : Bool) (first step last : Operand) : Style :=
  let general : Style := ⟨[], .plain 'g', []⟩
  match first.places, step.places, last.places with
  | some p, some q, some r =>
    let places := max p q
    let point (has : Bool) : Int := if has then 1 else 0
    let firstWidth := first.width + (places - p) + point (p = 0 && 0 < places)
    let lastWidth := last.width + (places - r : Int)
      - point (0 < r && places = 0) + point (r = 0 && 0 < places)
    let width := if equal then (max firstWidth lastWidth).toNat else 0
    ⟨[], { Format.Conversion.plain 'f' with zero := true, width := width, precision := places }, []⟩
  | _, _, _ => general

/-- The text of a number. With a fixed number of places it is exact. -/
def Style.text (s : Style) (units : Int) (places : Nat) : Bytes :=
  let den := Nat.pow 10 places
  match s.conversion.kind, s.conversion.precision with
  | 'f', some p =>
    let sign := Format.signOf s.conversion (units < 0)
    Format.padSigned s.conversion s.conversion.zero sign
      (Point.fixedRatio s.conversion.alternate p units.natAbs den)
  | _, _ => Format.pointText s.conversion (.ofRatio (units < 0) units.natAbs den)

/-! ## The program -/

/-- A row of numbers, as parts of which a power of ten makes one; without a last number it does not
end. -/
structure Row where
  first : Int
  step : Int
  last : Option Int
  places : Nat

namespace Row

/-- How many numbers of an endless row are looked at. -/
def shownAtMost : Nat := 50000

/-- A row with more numbers is taken for endless. -/
def longest : Nat := 2000000

/-- How many numbers the row has, or how many of them are looked at. -/
def count (r : Row) : Nat :=
  match r.last with
  | none => shownAtMost
  | some last =>
    let distance := if r.step < 0 then r.first - last else last - r.first
    if distance < 0 then 0 else distance.toNat / r.step.natAbs + 1

/-- The row, without a last number if there are too many. -/
def bounded (r : Row) : Row := if longest < r.count then { r with last := none } else r

/-- The number at a place. -/
def term (r : Row) (i : Nat) : Int := r.first + i * r.step

/-- The numbers of a row with separators between them, in front of a text. -/
def texts (s : Style) (separator : Bytes) (r : Row) : Nat → Bytes → Bytes
  | 0, out => out
  | n + 1, out =>
    let tail := if out.isEmpty then ['\n'] else separator ++ out
    texts s separator r n (s.front ++ s.text (r.term n) r.places ++ s.behind ++ tail)

/-- Is the number behind the last one printed too? It is if it looks like the last operand and not
like the number in front of it. -/
def hasMore (s : Style) (r : Row) : Bool :=
  match r.last with
  | none => false
  | some last =>
    let n := r.count
    let text := s.text (r.term n) r.places
    match quantity? text with
    | .ok (.finite units places) =>
      0 < n && units * Nat.pow 10 r.places = last * Nat.pow 10 places
        && text ≠ s.text (r.term (n - 1)) r.places
    | _ => false

end Row

/-- The parts of which a power of ten makes one. -/
def unitsAt (places : Nat) : Quantity → Int
  | .finite units p => units * Nat.pow 10 (places - p)
  | .infinite _ => 0

/-- The places of a number behind the point. -/
def placesOf : Quantity → Nat
  | .finite _ p => p
  | .infinite _ => 0

/-- The row from one number to another; none if the second one is an infinity on the wrong side, or
if there is no first number. -/
def rowOf (first step last : Quantity) : Option Row :=
  let places := max (placesOf first) (max (placesOf step) (placesOf last))
  let row (last : Option Int) : Row := ⟨unitsAt places first, unitsAt places step, last, places⟩
  match first, step, last with
  | .finite .., .finite .., .finite .. => some (row (some (unitsAt places last)))
  | .finite .., .finite units _, .infinite negative =>
    if negative = decide (units < 0) then some (row none) else none
  | _, _, _ => none

/-- Arguments in which negative numbers cannot be taken for options. -/
def guarded : List Bytes → List Bytes
  | [] => []
  | arg :: rest =>
    match arg with
    | '-' :: c :: cs =>
      let last := (c :: cs).dropWhile (· = 'w')
      let name := cs.takeWhile (· ≠ '=')
      let isName := c = '-' && !name.isEmpty && name = cs
      let takes := last = ['s'] || last = ['f']
        || (isName && ["separator", "format"].any fun full => name.isPrefixOf full.toList)
      if arg = "--".toList then arg :: rest
      else if c = '.' || c.isDigit then "--".toList :: arg :: rest
      else match takes, rest with
        | true, value :: more => arg :: value :: guarded more
        | _, rest => arg :: guarded rest
    | _ => arg :: rest

/-- The names of the options. -/
def names : List (String × ValueUse × Char) :=
  [("equal-width", .never, 'w'), ("format", .always, 'f'), ("separator", .always, 's')]

/-- Prints numbers in a row. -/
def seq : Executable := fun args => do
  let o ← Options.read ⟨"f:s:w", names, false⟩ (guarded args)
  if o.operands.isEmpty then Act.misuse "missing operand".toList
  if let some extra := o.operands[3]? then
    Act.misuse ("extra operand ".toList ++ visibly extra)
  let style ← match o.value? 'f' with
    | none => pure none
    | some format => match style? format with
      | .ok s => pure (some s)
      | .error e => Act.quit (e.message format)
  if style.isSome && o.has 'w' then
    Act.misuse "format string may not be specified when printing equal width strings".toList
  let one : Operand := ⟨.finite 1 0, 1, some 0⟩
  let (first, step, last) ← match o.operands with
    | [last] => do pure (one, one, ← operand last)
    | [first, last] => do
      let first ← operand first
      pure (first, one, ← operand last)
    | first :: step :: last :: _ => do
      let first ← operand first
      let arg := step
      let step ← operand step
      if let .finite 0 _ := step.value then
        Act.misuse ("invalid Zero increment value: ".toList ++ visibly arg)
      pure (first, step, ← operand last)
    | [] => pure (one, one, one)
  if let some row := rowOf first.value step.value last.value then
    let separator := (o.value? 's').getD ['\n']
    let row := row.bounded
    let shown := style.getD (usualStyle (o.has 'w') first step last)
    let n := if style.isSome && row.hasMore shown then row.count + 1 else row.count
    Act.put (row.texts shown separator n [])
    if row.last.isNone then modify fun s => { s with endless := true }

end ActionTree.Sh.Progression
