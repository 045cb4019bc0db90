/-!
# UTF-8

`decodeLossy` decodes bytes as UTF-8 and puts U+FFFD in the place of every longest beginning of a
character that goes on wrong, and of every byte that begins none. `decode?` accepts well-formed
bytes only.

In the program: how it decodes the output of commands (`decodeLossy`) and the lines of its input
(`decode?`).

* `units`: the characters and the malformed places, in order.
* `lead?`: how many bytes follow a first byte, and the range of the next one.
-/

namespace ActionTree.Text.Utf8

/-- The bytes that follow a first byte, the range of the first of them, and the bits that the first
byte contributes. -/
structure Lead where
  more : Nat
  least : UInt8
  greatest : UInt8
  bits : Nat

/-- What a byte begins that is not a character by itself. -/
def lead? (b : UInt8) : Option Lead :=
  let n := b.toNat
  if 0xC2 ≤ n ∧ n ≤ 0xDF then some ⟨1, 0x80, 0xBF, n - 0xC0⟩
  else if n = 0xE0 then some ⟨2, 0xA0, 0xBF, 0⟩
  else if n = 0xED then some ⟨2, 0x80, 0x9F, 0xD⟩
  else if 0xE1 ≤ n ∧ n ≤ 0xEF then some ⟨2, 0x80, 0xBF, n - 0xE0⟩
  else if n = 0xF0 then some ⟨3, 0x90, 0xBF, 0⟩
  else if 0xF1 ≤ n ∧ n ≤ 0xF3 then some ⟨3, 0x80, 0xBF, n - 0xF0⟩
  else if n = 0xF4 then some ⟨3, 0x80, 0x8F, 4⟩
  else none

/-- The state between bytes: nothing begun, or so many bytes to come with a range for the next. -/
structure Pending where
  more : Nat
  least : UInt8
  greatest : UInt8
  value : Nat

/-- A decoded character, or a place where the bytes are malformed. -/
inductive Decoded where
  | char (c : Char)
  | malformed
  deriving DecidableEq

/-- What a byte is that follows nothing: a unit, or the beginning of one. -/
def begin (b : UInt8) : Option Decoded × Option Pending :=
  if b < 0x80 then (some (.char (Char.ofNat b.toNat)), none)
  else match lead? b with
    | some l => (none, some ⟨l.more, l.least, l.greatest, l.bits⟩)
    | none => (some .malformed, none)

/-- The units of bytes, from a state on. -/
def units : Option Pending → List UInt8 → List Decoded
  | none, [] => []
  | some _, [] => [.malformed]
  | none, b :: bs => let (u, p) := begin b; u.toList ++ units p bs
  | some p, b :: bs =>
    if p.least ≤ b ∧ b ≤ p.greatest then
      let value := p.value * 64 + (b.toNat - 0x80)
      if p.more = 1 then .char (Char.ofNat value) :: units none bs
      else units (some ⟨p.more - 1, 0x80, 0xBF, value⟩) bs
    else
      let (u, q) := begin b
      .malformed :: (u.toList ++ units q bs)

/-- The text of bytes, with U+FFFD where they are malformed. -/
def decodeLossy (bs : List UInt8) : List Char :=
  (units none bs).map fun
    | .char c => c
    | .malformed => '\ufffd'

/-- The text of well-formed bytes. -/
def decode? (bs : List UInt8) : Option (List Char) :=
  (units none bs).mapM fun
    | .char c => some c
    | .malformed => none

/-- The bytes of a text. -/
def encode (cs : List Char) : List UInt8 := cs.flatMap String.utf8EncodeChar

end ActionTree.Text.Utf8
