import ActionTree.Document.Basic

/-!
# Reading documents as records

A record is a table with known names, of which others are ignored; a known name must not occur
twice. A sequence can stand for a record too, with its items in the order of the names. A choice of
a fixed set is a string, or a table whose only name is the choice and whose content is empty.

In the program: the decoders that are derived for its types, with their defaults.

* `record?`: the entries of a record.
* `required`, `optional`, `defaulting`: what an entry must give.
* `choice?`, `list?`, `tableOf?`: choices, sequences and tables of one type.
-/

namespace ActionTree

/-- The format that a document comes from. It decides two details of records and choices. -/
inductive Markup where
  | json
  | toml
  deriving DecidableEq

/-- What a record says under one of its names. -/
inductive Entry where
  | given (d : Document)
  /-- The table does not have the name. -/
  | absent
  /-- The sequence ends before the place of the name. -/
  | short

namespace Entry

/-- An entry that must be there. -/
def required {α : Type} (decode : Document → Option α) : Entry → Option α
  | .given d => decode d
  | _ => none

/-- An entry with a value of its own if it is not there. -/
def defaulting {α : Type} (decode : Document → Option α) (default : α) : Entry → Option α
  | .given d => decode d
  | _ => some default

/-- A value that may be null. -/
def nullable {α : Type} (decode : Document → Option α) (d : Document) : Option (Option α) :=
  if d.isNull then some none else (decode d).map some

/-- An entry that may be missing or null. -/
def optional {α : Type} (decode : Document → Option α) : Entry → Option (Option α) :=
  defaulting (nullable decode) none

/-- An entry that may be null or missing from a table, but not from a sequence. -/
def optionalInTable {α : Type} (decode : Document → Option α) : Entry → Option (Option α)
  | .given d => nullable decode d
  | .absent => some none
  | .short => none

end Entry

namespace Document

/-- The entry of a name, which must not occur twice. -/
def member? (members : List (String × Document)) (name : String) : Option Entry :=
  match members.filter (·.1 = name) with
  | [] => some .absent
  | [(_, d)] => some (.given d)
  | _ => none

/-- Items in the places of as many names; what is left over counts only in JSON. -/
def places (markup : Markup) : List String → List Document → Option (List Entry)
  | [], [] => some []
  | [], _ :: _ => if markup = .json then none else some []
  | _ :: names, [] => (places markup names []).map (.short :: ·)
  | _ :: names, d :: ds => (places markup names ds).map (.given d :: ·)

/-- The entries of a record, in the order of its names. -/
def record? (markup : Markup) (names : List String) (d : Document) : Option (List Entry) :=
  match d.members? with
  | some members => names.mapM (member? members)
  | none =>
    match d.items?, d with
    | some ds, _ => places markup names ds
    | none, .date => some (names.map fun _ => .absent)
    | none, _ => none

/-- Is it an empty content, as a format writes it? -/
def isEmptyContent (markup : Markup) (d : Document) : Bool :=
  match markup with
  | .json => d.isNull
  | .toml => d.items?.any (·.isEmpty) || d.members?.any (·.isEmpty)

/-- The name of a choice. -/
def choice? (markup : Markup) (d : Document) : Option String :=
  match d.string?, d.members? with
  | some s, _ => some s
  | none, some [(name, content)] => if content.isEmptyContent markup then some name else none
  | none, _ => none

/-- A sequence of values of one type. -/
def list? {α : Type} (decode : Document → Option α) (d : Document) : Option (List α) := do
  (← d.items?).mapM decode

/-- The values of members, on top of those found so far. -/
def putAll? {α : Type} (decode : Document → Option α) :
    List (String × Document) → Fields α → Option (Fields α)
  | [], found => some found
  | (k, d) :: rest, found => do putAll? decode rest (Fields.put k (← decode d) found)

/-- A table of values of one type. The members of a JSON object are a table as they stand. -/
def tableOf? {α : Type} (decode : Document → Option α) : Document → Option (Fields α)
  | .value (.obj members) => members.mapM fun m => (decode (.value m.2)).map (m.1, ·)
  | .table members => putAll? decode members []
  | _ => none

end Document

end ActionTree
