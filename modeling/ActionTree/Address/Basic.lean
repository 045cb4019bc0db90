import ActionTree.Text.Decimal

/-!
# Addresses

An address is a dotted path of numbers below `2^32`, such as `0.5.1`: a first segment and the
segments below it, so it is never empty. `parse?` reads the dotted form (any number of leading zeros
in a segment) and `text` writes it without leading zeros.

In the program: `Address`, whose `from_str` is `parse`, whose display form is `text`, and whose
`root`, `segments`, `depth`, `parent`, `child` and `last` have their names here.

* `parent?`, `child`: one level up and down.
* `compare`: the order by segments from the left, a beginning before what it begins.
-/

namespace ActionTree

/-- A dotted path of numbers. -/
structure Address where
  /-- The first segment. -/
  top : UInt32
  /-- The segments behind the first one. -/
  below : List UInt32
  deriving DecidableEq

/-- Why a node cannot be added to a tree. -/
inductive AddressError where
  | invalid (text : String)
  | duplicate (address : String)
  | missingParent (address parent : String)
  deriving DecidableEq

/-- What an address error says. -/
def AddressError.message : AddressError → String
  | .invalid text => "invalid address '" ++ text ++ "'"
  | .duplicate address => "duplicate address '" ++ address ++ "'"
  | .missingParent address parent =>
    "address '" ++ address ++ "' has no parent node '" ++ parent ++ "'"

namespace Address

/-- The address `0`. -/
def root : Address := ⟨0, []⟩

/-- All segments. -/
def segments (a : Address) : List UInt32 := a.top :: a.below

/-- The address with these segments, of which there is at least one. -/
def ofSegments? : List UInt32 → Option Address
  | [] => none
  | s :: rest => some ⟨s, rest⟩

/-- The number of segments. -/
def depth (a : Address) : Nat := a.below.length + 1

/-- The last segment. -/
def last (a : Address) : UInt32 := a.below.getLast?.getD a.top

/-- The address without its last segment, if one is left. -/
def parent? (a : Address) : Option Address :=
  if a.below.isEmpty then none else some ⟨a.top, a.below.dropLast⟩

/-- The address with one more segment. -/
def child (a : Address) (segment : UInt32) : Address := ⟨a.top, a.below ++ [segment]⟩

/-- Order of segments from the left. -/
def compareSegments : List UInt32 → List UInt32 → Ordering
  | [], [] => .eq
  | [], _ :: _ => .lt
  | _ :: _, [] => .gt
  | x :: xs, y :: ys => if x < y then .lt else if y < x then .gt else compareSegments xs ys

/-- The order of addresses: by segments, a beginning before what it begins. -/
protected def compare (a b : Address) : Ordering := compareSegments a.segments b.segments

/-! ## Text -/

/-- The digits of a number, as characters. -/
def digits (n : Nat) : List Char := Nat.toDigits 10 n

/-- The dotted text of segments. -/
def dotted : List UInt32 → List Char
  | [] => []
  | [s] => digits s.toNat
  | s :: t :: rest => digits s.toNat ++ '.' :: dotted (t :: rest)

/-- The dotted text. -/
def chars (a : Address) : List Char := dotted a.segments

/-- The dotted text. -/
def text (a : Address) : String := String.ofList a.chars

/-- Text split at dots. -/
def splitDots : List Char → List (List Char)
  | [] => [[]]
  | c :: cs =>
    if c = '.' then [] :: splitDots cs
    else match splitDots cs with
      | [] => [[c]]
      | p :: ps => (c :: p) :: ps

/-- The number of a run of digits, if it is not empty and denotes a number below `2^32`. -/
def segment? (ds : List Char) : Option UInt32 := (Text.natural? UInt32.size ds).map UInt32.ofNat

/-- The address of a dotted text. -/
def parseChars? (cs : List Char) : Option Address :=
  (splitDots cs).mapM segment? |>.bind ofSegments?

/-- The address of a dotted text. -/
def parse? (s : String) : Option Address := parseChars? s.toList

/-- The address of a dotted text, or the error that there is none. -/
def parse (s : String) : Except AddressError Address :=
  match parse? s with
  | some a => .ok a
  | none => .error (.invalid s)

theorem segments_ne_nil (a : Address) : a.segments ≠ [] := by simp [segments]

@[simp] theorem parent?_child (a : Address) (s : UInt32) : (a.child s).parent? = some a := by
  simp [parent?, child]

@[simp] theorem last_child (a : Address) (s : UInt32) : (a.child s).last = s := by
  simp [last, child]

@[simp] theorem depth_child (a : Address) (s : UInt32) : (a.child s).depth = a.depth + 1 := by
  simp [depth, child]

theorem depth_eq_one_iff {a : Address} : a.depth = 1 ↔ a.parent? = none := by
  cases h : a.below <;> simp [depth, parent?, h]

/-- An address is the child of its parent with its last segment. -/
theorem parent?_eq_some_iff {a p : Address} : a.parent? = some p ↔ a = p.child a.last := by
  refine ⟨fun h => ?_, fun h => by rw [h, parent?_child]⟩
  obtain ⟨top, below⟩ := a
  rcases List.eq_nil_or_concat below with rfl | ⟨init, s, rfl⟩
  · simp [parent?] at h
  · obtain rfl : Address.mk top init = p := by simpa [parent?] using h
    simp [child, last]

end Address

end ActionTree
