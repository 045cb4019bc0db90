import ActionTree.Json.Basic

/-!
# Documents

A `Document` is what a text in a data format says, before it is read as a value of some type. The
members of a table stand in the order of the text, and a name may occur twice. A JSON value is a
document as well. Parts that are well formed but have no value (a number out of range, half of a
surrogate pair, nesting that is too deep) are `invalid`; they do harm only where something reads
them.

In the program: the values that its readers of JSON and TOML hand to the decoders of its types.

* `json?`: a document as a JSON value; of two members with one name the later counts.
* `items?`, `members?`, `string?`, …: a document read as one of a kind.
-/

namespace ActionTree

/-- A text in a data format, read but not yet interpreted. -/
inductive Document where
  | value (v : Json)
  | seq (items : List Document)
  | table (members : List (String × Document))
  /-- A date or a time, of which only its presence matters. -/
  | date
  /-- A part without a value. -/
  | invalid

namespace Document

instance : Inhabited Document := ⟨.invalid⟩

mutual

/-- The JSON value of a document, if every part has one. -/
def json? : Document → Option Json
  | .value v => some v
  | .seq items => (jsonItems? items).map .arr
  | .table members => (jsonMembers? members []).map .obj
  | .date => none
  | .invalid => none

/-- The JSON values of items. -/
def jsonItems? : List Document → Option (List Json)
  | [] => some []
  | d :: rest => do return (← json? d) :: (← jsonItems? rest)

/-- The members of an object, on top of those found so far. -/
def jsonMembers? : List (String × Document) → Fields Json → Option (Fields Json)
  | [], found => some found
  | (k, d) :: rest, found => do jsonMembers? rest (Fields.put k (← json? d) found)

end

/-- The items of a sequence. -/
def items? : Document → Option (List Document)
  | .seq items => some items
  | .value (.arr items) => some (items.map .value)
  | _ => none

/-- The members of a table. -/
def members? : Document → Option (List (String × Document))
  | .table members => some members
  | .value (.obj members) => some (members.map fun m => (m.1, .value m.2))
  | _ => none

/-- Is it null? -/
def isNull : Document → Bool
  | .value .null => true
  | _ => false

/-- A string. -/
def string? : Document → Option String
  | .value (.str s) => some s
  | _ => none

/-- A truth value. -/
def bool? : Document → Option Bool
  | .value (.bool b) => some b
  | _ => none

/-- A natural number below a bound. -/
def natural? (bound : Nat) : Document → Option Nat
  | .value (.int (.ofNat n)) => if n < bound then some n else none
  | _ => none

/-- A number with 32 bits: the nearest to a number of either kind. -/
def single? : Document → Option Binary32
  | .value (.int i) => some (.ofInt i)
  | .value (.float x) => some x.narrow
  | _ => none

end Document

end ActionTree
