import ActionTree.Document.Basic

/-!
# Tables under construction

While a TOML text is read, a table remembers how it came to be. A dotted key or a header of a deeper
table makes tables on its way, which are `implicit`; those made by a dotted key are `dotted` as
well. Nothing may be defined twice: a header may complete a table that a deeper header made, and
dotted keys may extend only tables that dotted keys made.

In the program: its TOML reader.

* `Table.assign?`: a value under a dotted key.
* `Table.update?`: a change to the table at a path.
* `Table.document`: the finished table.
-/

namespace ActionTree.Toml

mutual

/-- What a table holds under a key. -/
inductive Item where
  | value (d : Document)
  | table (t : Table)
  /-- Tables that come one after the other under the same header. -/
  | tables (ts : List Table)

/-- A table under construction. -/
inductive Table where
  | mk (implicit dotted : Bool) (entries : List (String × Item))

end

namespace Table

/-- Did something else than its own header make the table? -/
def implicit : Table → Bool
  | mk i _ _ => i

/-- Did a dotted key make the table? -/
def dotted : Table → Bool
  | mk _ d _ => d

/-- The entries, in the order of the text. -/
def entries : Table → List (String × Item)
  | mk _ _ es => es

/-- The table with other entries. -/
def withEntries (t : Table) (es : List (String × Item)) : Table := mk t.implicit t.dotted es

/-- A table with its own header, or the whole text. -/
def explicit : Table := mk false false []

/-- The entry under a key. -/
def find? (t : Table) (key : String) : Option Item :=
  (t.entries.find? (·.1 = key)).map (·.2)

/-- The table with an entry set; a new one comes last. -/
def set (t : Table) (key : String) (i : Item) : Table :=
  if t.entries.any (·.1 = key) then
    t.withEntries (t.entries.map fun e => if e.1 = key then (key, i) else e)
  else t.withEntries (t.entries ++ [(key, i)])

/-- The table without an entry. -/
def remove (t : Table) (key : String) : Table := t.withEntries (t.entries.filter (·.1 ≠ key))

/-- A change to the table at a path. Tables are made on the way; the last of several tables under
one header counts. A dotted path does not lead through a table with a header of its own. -/
def update? (viaDots : Bool) (change : Table → Option Table) : List String → Table → Option Table
  | [], t => change t
  | key :: path, t =>
    match t.find? key with
    | none => do return t.set key (.table (← update? viaDots change path (mk true viaDots [])))
    | some (.table u) =>
      if viaDots && !u.implicit then none
      else do return t.set key (.table (← update? viaDots change path u))
    | some (.tables us) =>
      match us.getLast? with
      | some u => do return t.set key (.tables (us.dropLast ++ [← update? viaDots change path u]))
      | none => none
    | some (.value _) => none

/-- A value under a key that has none yet. At the end of a dotted key only tables made by dotted
keys take values. -/
def define? (viaDots : Bool) (key : String) (d : Document) (t : Table) : Option Table :=
  if t.dotted != viaDots || (t.find? key).isSome then none else some (t.set key (.value d))

/-- A value under a dotted key, given by its last part and those before it. -/
def assign? (t : Table) (path : List String) (key : String) (d : Document) : Option Table :=
  t.update? true (define? (!path.isEmpty) key d) path

mutual

/-- The finished table. -/
def document : Table → Document
  | mk _ _ es => .table (documents es)

/-- The finished entries of a table. -/
def documents : List (String × Item) → List (String × Document)
  | [] => []
  | (k, i) :: rest => (k, itemDocument i) :: documents rest

/-- A finished entry. -/
def itemDocument : Item → Document
  | .value d => d
  | .table t => document t
  | .tables ts => .seq (tableDocuments ts)

/-- Finished tables. -/
def tableDocuments : List Table → List Document
  | [] => []
  | t :: rest => document t :: tableDocuments rest

end

end Table

/-- The parts of a text that are finished, and the table that lines add to. -/
structure Draft where
  /-- All finished tables. -/
  root : Table
  /-- The table that is being filled. -/
  current : Table
  /-- Where the current table belongs; the table of the whole text has an empty path. -/
  path : List String
  /-- Is it one of several tables under its header? -/
  isOneOfMany : Bool

namespace Draft

/-- Nothing yet. -/
def empty : Draft := ⟨.explicit, .explicit, [], false⟩

/-- One more table under a key of its parent. -/
def addTable? (key : String) (u : Table) (t : Table) : Option Table :=
  match t.find? key with
  | none => some (t.set key (.tables [u]))
  | some (.tables us) => some (t.set key (.tables (us ++ [u])))
  | some _ => none

/-- The table under a key of its parent, in place of one that a deeper header made. -/
def putTable? (key : String) (u : Table) (t : Table) : Option Table :=
  match t.find? key with
  | none => some (t.set key (.table u))
  | some (.table old) => if old.implicit then some (t.set key (.table u)) else none
  | some _ => none

/-- The draft with its current table put where it belongs. -/
def finish? (d : Draft) : Option Table :=
  match d.path.getLast? with
  | none => some d.current
  | some key =>
    d.root.update? false
      (if d.isOneOfMany then addTable? key d.current else putTable? key d.current)
      d.path.dropLast

/-- A value in the current table. -/
def assign? (d : Draft) (path : List String) (key : String) (v : Document) : Option Draft := do
  return { d with current := ← d.current.assign? path key v }

/-- Could a table be added under a key? -/
def admitsMany? (key : String) (t : Table) : Option Table :=
  match t.find? key with
  | none | some (.tables _) => some t
  | some _ => none

/-- The table that a header continues: one that a deeper header made, or a new one. -/
def opened? (key : String) (t : Table) : Option Table :=
  match t.find? key with
  | none => some .explicit
  | some (.table u) => if u.implicit && !u.dotted then some (.mk false false u.entries) else none
  | some _ => none

/-- The table at a path. -/
def reach? (path : List String) (t : Table) : Option Table :=
  match path with
  | [] => some t
  | key :: path =>
    match t.find? key with
    | none => some (.mk true false [])
    | some (.table u) => reach? path u
    | some (.tables us) => us.getLast?.bind (reach? path)
    | some (.value _) => none

/-- The draft behind a header, whose last part and the parts before it are given. -/
def header? (many : Bool) (path : List String) (key : String) (d : Draft) : Option Draft := do
  let root ← d.finish?
  if many then
    let root ← root.update? false (admitsMany? key) path
    return ⟨root, .explicit, path ++ [key], true⟩
  else
    let current ← (reach? path root).bind (opened? key)
    let root ← root.update? false (fun t => some (t.remove key)) path
    return ⟨root, current, path ++ [key], false⟩

end Draft

end ActionTree.Toml
