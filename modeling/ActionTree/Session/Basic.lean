import ActionTree.Agent.Basic
import ActionTree.Session.Record
import ActionTree.Space.Basic

/-!
# Sessions

A session has an id, a state and a navigator. The state is the log of records, to which `append`
adds only the record with the next index, the named variables and the agents. The navigator is a
path of visited addresses that is never empty; its last one is the cursor.

In the program: `SessionState` (`State`, and `Workspace` for the parts that handlers may change),
`OutOfSequence`, `Navigator` with `move_to` and `back`, `Session`, and `SessionId` (a text, of which
`uuid` is the random one).

* `State.append`: the log grows by one record.
* `Navigator.moveTo`, `Navigator.back`: the path grows by an address other than the cursor, and
  shrinks by the cursor unless only the first address is left.
* `uuid`: sixteen bytes as a random (version 4) UUID, 36 characters of which the version and the
  variant are fixed.
-/

namespace ActionTree

/-- What handlers may change: the variables and the agents of a session. -/
structure Workspace where
  /-- The values of the named variables. -/
  values : Fields Json
  agents : Agents

/-- The log, the variables and the agents of a session. -/
structure State where
  log : List Record
  work : Workspace

/-- A record that does not carry the next index of a log. -/
structure OutOfSequence where
  expected : Nat
  got : Nat
  deriving DecidableEq

/-- What is said of a record out of sequence. -/
def OutOfSequence.message (e : OutOfSequence) : String :=
  "result index " ++ toString e.got ++ " out of sequence (expected " ++ toString e.expected ++ ")"

namespace State

/-- The state of a new session. -/
def new : State := ⟨[], ⟨[], []⟩⟩

/-- The index of the next record. -/
def nextIndex (s : State) : Nat := s.log.length + 1

/-- The state with one more record, which must carry the next index. -/
def append (s : State) (r : Record) : Except OutOfSequence State :=
  if r.index = s.nextIndex then .ok { s with log := s.log ++ [r] }
  else .error ⟨s.nextIndex, r.index⟩

/-- The record with an index; the first one is 1. -/
def get? (s : State) (index : Nat) : Option Record :=
  if index = 0 then none else s.log[index - 1]?

end State

/-- A path of visited addresses. -/
structure Navigator where
  /-- Where the path starts. -/
  start : Address
  /-- The addresses visited since, the latest first. -/
  trail : List Address
  deriving DecidableEq

namespace Navigator

/-- A path of one address. -/
def new (start : Address) : Navigator := ⟨start, []⟩

/-- The current address. -/
def cursor (n : Navigator) : Address := n.trail.head?.getD n.start

/-- The whole path, from its start to the cursor. -/
def stack (n : Navigator) : List Address := n.start :: n.trail.reverse

/-- The path with one more address, unless it is the cursor already. -/
def moveTo (n : Navigator) (a : Address) : Navigator :=
  if n.cursor = a then n else { n with trail := a :: n.trail }

/-- Can the path get shorter? -/
def canGoBack (n : Navigator) : Bool := !n.trail.isEmpty

/-- The path without the cursor; the start stays. -/
def back (n : Navigator) : Navigator := { n with trail := n.trail.tail }

end Navigator

/-- One user's dealings with a tree. -/
structure Session where
  id : String
  state : State
  nav : Navigator

namespace Session

/-- A session that starts at an address. -/
def new (id : String) (start : Address) : Session := ⟨id, .new, .new start⟩

end Session

/-! ## Random ids -/

/-- The two hexadecimal digits of a byte. -/
def hexByte (b : UInt8) : List Char :=
  let digit (n : Nat) : Char := (Nat.toDigits 16 n).headD '0'
  [digit (b.toNat / 16), digit (b.toNat % 16)]

/-- The bytes with version and variant in their places. -/
def marked (bs : List UInt8) : List UInt8 :=
  bs.mapIdx fun i b =>
    if i = 6 then b &&& 0x0f ||| 0x40 else if i = 8 then b &&& 0x3f ||| 0x80 else b

/-- Sixteen bytes as a random UUID. -/
def uuid (bs : List UInt8) : String :=
  let digits := (marked bs).flatMap hexByte
  let part (start width : Nat) : String := String.ofList ((digits.drop start).take width)
  "-".intercalate [part 0 8, part 8 4, part 12 4, part 16 4, part 20 12]

end ActionTree
