import ActionTree.Testing.Sh.Scan.Value
import Std.Data.HashMap

/-!
# Tables of scanning programs

A table keeps values under keys. What is listed is in the order of lists: a key is in the list that
its hash leads to, and comes to the front of it when it is used. Whole numbers have lists of their
own, by their last bits; they join the others when a key that is a text is used, or when all keys
are listed.

* `Table.use`, `Table.erase`: a key is used or taken away.
* `Table.list`: all keys in order.
* `Table.ofRow`: the values of a row under the numbers from 1 on.
-/

namespace ActionTree.Sh.Scan

/-- What a value is kept under. -/
inductive Key where
  | whole (n : Int)
  | word (cs : Bytes)
  deriving DecidableEq

/-- The number that a text leads to: its bytes are mixed in one after another. -/
def hashOf (cs : Bytes) : Nat :=
  cs.foldl (fun h c => ((h ^^^ c.toNat) * 16777619) % UInt32.size) 2166136261

/-- The text by which a value is looked up. -/
structure Label where
  text : Bytes
  deriving DecidableEq

instance : Hashable Label := ⟨fun l => (hashOf l.text).toUInt64⟩

/-- The label of a key; keys with one text are the same. -/
def Key.label : Key → Label
  | .whole n => ⟨decimal n⟩
  | .word cs => ⟨cs⟩

/-- The lists of keys. -/
structure Lists where
  words : Array (List Bytes)
  wholes : Array (List Int)
  /-- Are all keys in the lists of words? -/
  hasWords : Bool

/-- What the order of keys depends on. -/
inductive Order where
  | none
  /-- The whole numbers from 1 up to one. -/
  | row (n : Nat)
  | lists (l : Lists)

/-- Values under keys. -/
structure Table where
  cells : Std.HashMap Label Value
  order : Order

instance : Inhabited Table := ⟨⟨∅, .none⟩⟩

namespace Lists

/-- How many lists there are at first. -/
def initialSize : Nat := 64

/-- How many keys there may be for each list. -/
def greatestLoad : Nat := 12

/-- Lists without keys. -/
def empty : Lists :=
  ⟨Array.replicate initialSize [], Array.replicate initialSize [], false⟩

/-- The list of a word. -/
def wordPlace (l : Lists) (cs : Bytes) : Nat := hashOf cs % l.words.size

/-- The list of a whole number. -/
def wholePlace (l : Lists) (n : Int) : Nat := (n % l.words.size).toNat

/-- A word comes to the front of its list. -/
def useWord (l : Lists) (cs : Bytes) : Lists :=
  { l with words := l.words.modify (l.wordPlace cs) fun ws => cs :: ws.erase cs }

/-- A whole number comes to the front of its list. -/
def useWhole (l : Lists) (n : Int) : Lists :=
  { l with wholes := l.wholes.modify (l.wholePlace n) fun ns => n :: ns.erase n }

/-- Is a whole number in its list? -/
def hasWhole (l : Lists) (n : Int) : Bool := (l.wholes[l.wholePlace n]?.getD []).contains n

/-- Twice as many lists: each list is cut in two, and both halves keep their order. -/
def doubled (l : Lists) : Lists :=
  let size := l.words.size
  let belongs (n : Nat) (i : Nat) : Bool := n % (2 * size) = i
  let wholeBelongs (n : Int) (i : Nat) : Bool := (n % (2 * size : Nat)).toNat = i
  let wordsAt (i : Nat) : List Bytes :=
    (l.words[i % size]?.getD []).filter fun cs => belongs (hashOf cs) i
  let wholesAt (i : Nat) : List Int :=
    (l.wholes[i % size]?.getD []).filter (wholeBelongs · i)
  let places := Array.range (2 * size)
  { l with words := places.map wordsAt, wholes := places.map wholesAt }

/-- The lists with room for one more key, when there are so many. -/
def grown (l : Lists) (count : Nat) : Lists :=
  if l.words.size * greatestLoad < count then l.doubled else l

/-- The lists in which all whole numbers have joined the words. -/
def joined (l : Lists) : Lists :=
  if l.hasWords then l
  else
    let add (l : Lists) (n : Int) : Lists :=
      let cs := decimal n
      { l with words := l.words.modify (l.wordPlace cs) fun ws =>
          if ws.contains cs then ws else cs :: ws }
    { l.wholes.foldl (fun l ns => ns.foldl add l) l with hasWords := true }

/-- The lists of the whole numbers from 1 up to one. -/
def ofRow (n : Nat) : Lists :=
  let start := (List.range n).foldl (fun (l : Lists) (k : Nat) => l.useWhole (k + 1)) empty
  double (n + 1) start
where
  /-- Doubles the lists until there is room. -/
  double : Nat → Lists → Lists
    | 0, l => l
    | fuel + 1, l =>
      if l.words.size * greatestLoad < n then double fuel l.doubled else l

end Lists

namespace Order

/-- The lists of an order. -/
def toLists : Order → Lists
  | none => .empty
  | row n => .ofRow n
  | lists l => l

end Order

namespace Table

/-- The table of a row of values. -/
def ofRow (values : List Value) : Table :=
  ⟨.ofList (values.mapIdx fun i v => (⟨decimal (i + 1)⟩, v)), .row values.length⟩

/-- How many values there are. -/
def size (t : Table) : Nat := t.cells.size

/-- The value under a key. -/
def get (t : Table) (k : Key) : Value := t.cells.getD k.label .unset

/-- Is there a value under a key? -/
def contains (t : Table) (k : Key) : Bool := t.cells.contains k.label

/-- The order in which a word was used, which is new or not; so many values are there then. -/
def useWord (o : Order) (cs : Bytes) (isNew : Bool) (count : Nat) : Order :=
  let l := o.toLists.joined
  .lists ((if isNew then l.grown count else l).useWord cs)

/-- The order in which a whole number was used, which is new or not. -/
def useWhole (o : Order) (n : Int) (isNew : Bool) (count : Nat) : Order :=
  let l := o.toLists
  if l.hasWhole n then .lists (l.useWhole n)
  else if l.hasWords then
    let l := if isNew then l.grown count else l
    .lists ((l.useWord (decimal n)).useWhole n)
  else .lists ((if isNew then l.grown count else l).useWhole n)

/-- The table in which a key is used, which is new or not. -/
def touched (t : Table) (k : Key) (isNew : Bool) : Table :=
  let count := t.cells.size
  match t.order, k with
  | .row m, .whole n =>
    if 1 ≤ n && n ≤ m then t else { t with order := useWhole t.order n isNew count }
  | o, .whole n => { t with order := useWhole o n isNew count }
  | o, .word cs => { t with order := useWord o cs isNew count }

/-- The table in which a value is kept under a key. -/
def insert (t : Table) (k : Key) (v : Value) : Table :=
  let isNew := !t.contains k
  touched { t with cells := t.cells.insert k.label v } k isNew

/-- The table in which the value under a key was asked for: a key without a value gets one. -/
def use (t : Table) (k : Key) : Table :=
  if t.contains k then touched t k false
  else touched { t with cells := t.cells.insert k.label .unset } k true

/-- The table in which it was asked whether a key has a value. -/
def asked (t : Table) (k : Key) : Table :=
  if t.contains k then touched t k false
  else
    match t.order, k with
    | .row _, .word _ => { t with order := .lists t.order.toLists.joined }
    | .lists l, .word _ => { t with order := .lists l.joined }
    | _, _ => t

/-- The table without a key. -/
def erase (t : Table) (k : Key) : Table :=
  if !t.contains k then asked t k
  else if t.size = 1 then default
  else
    let t := match t.order, k with
      | .row n, .whole _ => { t with order := .lists (.ofRow n) }
      | _, _ => touched t k false
    let l := t.order.toLists
    let label := k.label
    let cs := label.text
    let whole? : Option Int := match k with
      | .whole n => some n
      | .word cs => match (String.ofList cs).toInt? with
        | some n => if decimal n = cs then some n else none
        | none => none
    let l := { l with words := l.words.modify (l.wordPlace cs) (·.erase cs) }
    let l := match whole? with
      | some n => { l with wholes := l.wholes.modify (l.wholePlace n) (·.erase n) }
      | none => l
    ⟨t.cells.erase label, .lists l⟩

/-- All keys in order, and the table in which they were listed. -/
def list (t : Table) : List Bytes × Table :=
  if t.cells.isEmpty then ([], t)
  else
    let l := t.order.toLists.joined
    (l.words.toList.flatten, { t with order := .lists l })

end Table

end ActionTree.Sh.Scan
