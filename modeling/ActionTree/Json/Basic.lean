import ActionTree.Fields
import ActionTree.Binary.Basic

/-!
# JSON values

A value is null, a truth value, a whole number, a floating-point number, a string, an array or an
object. Whole numbers are those of the range `-2^63 … 2^64-1`; every other number is a `Binary64`.
The members of an object are a table, sorted by key.

In the program: the JSON values of arguments, outputs and variables.

* `get?`: a member of an object.
* `string?`, `natural?`: a value read as one of a kind.
* `kindName`: the name of a value's kind.
* `beq_iff`: when two values are the same is decided.
-/

namespace ActionTree

/-- A JSON value. -/
inductive Json where
  | null
  | bool (value : Bool)
  | int (value : Int)
  | float (value : Binary64)
  | str (value : String)
  | arr (items : List Json)
  | obj (members : List (String × Json))

namespace Json

instance : Inhabited Json := ⟨.null⟩

/-- The least whole number that stays one: `-2^63`. -/
def leastInt : Int := -9223372036854775808

/-- The whole numbers end before `2^64`. -/
def endInt : Nat := UInt64.size

/-- A member of an object. Other values have none. -/
def get? (key : String) : Json → Option Json
  | .obj members => Fields.get? key members
  | _ => none

/-- The text of a string value. -/
def string? : Json → Option String
  | .str s => some s
  | _ => none

/-- A whole number that is not negative. -/
def natural? : Json → Option Nat
  | .int (.ofNat n) => some n
  | _ => none

/-- A truth value. -/
def bool? : Json → Option Bool
  | .bool b => some b
  | _ => none

/-- The items of an array. -/
def items? : Json → Option (List Json)
  | .arr items => some items
  | _ => none

/-- The members of an object. -/
def members? : Json → Option (Fields Json)
  | .obj members => some members
  | _ => none

/-- The object with these members: of two with one key the later counts. -/
def object (members : List (String × Json)) : Json := .obj (Fields.ofList members)

/-- A natural number as a value. -/
def ofNat (n : Nat) : Json := .int n

/-- A list of strings as a value. -/
def strings (ss : List String) : Json := .arr (ss.map .str)

/-- The name of a value's kind. -/
def kindName : Json → String
  | .null => "null"
  | .bool _ => "boolean"
  | .int _ | .float _ => "number"
  | .str _ => "string"
  | .arr _ => "array"
  | .obj _ => "object"

@[simp] theorem get?_obj (key : String) (members : Fields Json) :
    (Json.obj members).get? key = Fields.get? key members := rfl

@[simp] theorem string?_str (s : String) : (Json.str s).string? = some s := rfl

theorem string?_eq_some_iff {v : Json} {s : String} : v.string? = some s ↔ v = .str s := by
  cases v <;> simp [string?]

/-! ## Equality -/

mutual

/-- Are two values the same? -/
def beq : Json → Json → Bool
  | .null, .null => true
  | .bool a, .bool b => a == b
  | .int m, .int n => m == n
  | .float x, .float y => x == y
  | .str s, .str t => s == t
  | .arr vs, .arr ws => beqItems vs ws
  | .obj ms, .obj ns => beqMembers ms ns
  | _, _ => false

def beqItems : List Json → List Json → Bool
  | [], [] => true
  | v :: vs, w :: ws => beq v w && beqItems vs ws
  | _, _ => false

def beqMembers : List (String × Json) → List (String × Json) → Bool
  | [], [] => true
  | (key, v) :: ms, (key', w) :: ns => key == key' && beq v w && beqMembers ms ns
  | _, _ => false

end

mutual

theorem beq_iff : ∀ v w : Json, beq v w = true ↔ v = w
  | .null, w | .bool _, w | .int _, w | .float _, w | .str _, w => by cases w <;> simp [beq]
  | .arr vs, w => by cases w <;> simp [beq, beqItems_iff vs]
  | .obj ms, w => by cases w <;> simp [beq, beqMembers_iff ms]

theorem beqItems_iff : ∀ vs ws : List Json, beqItems vs ws = true ↔ vs = ws
  | [], ws => by cases ws <;> simp [beqItems]
  | v :: vs, ws => by cases ws <;> simp [beqItems, beq_iff v, beqItems_iff vs]

theorem beqMembers_iff : ∀ ms ns : List (String × Json), beqMembers ms ns = true ↔ ms = ns
  | [], ns => by cases ns <;> simp [beqMembers]
  | (key, v) :: ms, ns => by
    cases ns <;> simp [beqMembers, beq_iff v, beqMembers_iff ms, Prod.ext_iff]

end

/-- Written out, as there is none to derive for a type that is nested in lists. -/
instance : DecidableEq Json := fun v w => decidable_of_iff _ (beq_iff v w)

end Json

end ActionTree
