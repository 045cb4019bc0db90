import ActionTree.Testing.Sh.Format

/-!
# Digests

A digest is a short number that stands for a text. The text is filled up to whole blocks of
sixteen words, the length of the text at the end, and each block is mixed into a few words.

* `Method.digest`: the digest of a text, in hexadecimal digits.
* `checksum`: the remainder of a text as a polynomial over two elements.
-/

namespace ActionTree.Sh.Digest

/-- The words that a method works with. -/
abbrev Words (width : Nat) := Array (BitVec width)

/-- A method of making digests. -/
structure Method where
  /-- The name. -/
  name : String
  /-- How many bits a word has. -/
  width : Nat
  /-- Do the bytes of least weight come first in a word? -/
  lowFirst : Bool
  /-- The words before the first block. -/
  start : Words width
  /-- What a block is mixed to, with the words before it. -/
  mixed : Words width → Words width → Words width
  /-- How many hexadecimal digits of the words are the digest. -/
  size : Nat

/-! ## Roots -/

/-- The greatest number below `2 ^ bits` of which a power is not above a number. -/
def root (power bits n : Nat) : Nat :=
  (List.range bits).foldr (fun i r =>
    let next := r + Nat.pow 2 i
    if Nat.pow next power ≤ n then next else r) 0

/-- Is a number greater than one divided by no other one? -/
def isPrime (n : Nat) : Bool := 2 ≤ n && (List.range n).all fun d => d < 2 || n % d ≠ 0

/-- The first prime numbers, as many as a method needs. -/
def primes : List Nat := ((List.range 410).filter isPrime).take 80

/-- The first bits behind the point of a root of a number. -/
def fraction (width power n : Nat) : BitVec width :=
  BitVec.ofNat width (root power (width + 9) (n * Nat.pow 2 (width * power)))

/-! ## Mixing -/

/-- A word of some, counted from 0. -/
def word {width : Nat} (ws : Words width) (i : Nat) : BitVec width := ws.getD i 0

/-- Each word and the one that is mixed. -/
def sums {width : Nat} (old new : Words width) : Words width := old.zipWith (· + ·) new

/-- A block with so many more words, each made of the ones before it by how far they are back. -/
def extended {width : Nat} (next : (Nat → BitVec width) → BitVec width) (count : Nat)
    (block : Words width) : Words width :=
  (List.range count).foldl (fun ws _ => ws.push (next fun back => word ws (ws.size - back))) block

/-- The bits of one of two words, which a third one chooses. -/
def choice {width : Nat} (x y z : BitVec width) : BitVec width := (x &&& y) ||| (~~~x &&& z)

/-- The bits that an odd number of three words have. -/
def parity {width : Nat} (x y z : BitVec width) : BitVec width := x ^^^ y ^^^ z

/-- The bits that most of three words have. -/
def majority {width : Nat} (x y z : BitVec width) : BitVec width :=
  (x &&& y) ^^^ (x &&& z) ^^^ (y &&& z)

/-! ## A digest of four words -/

/-- The constants of the rounds. -/
def fourAdded : Words 32 :=
  #[0xd76aa478, 0xe8c7b756, 0x242070db, 0xc1bdceee, 0xf57c0faf, 0x4787c62a, 0xa8304613, 0xfd469501,
    0x698098d8, 0x8b44f7af, 0xffff5bb1, 0x895cd7be, 0x6b901122, 0xfd987193, 0xa679438e, 0x49b40821,
    0xf61e2562, 0xc040b340, 0x265e5a51, 0xe9b6c7aa, 0xd62f105d, 0x02441453, 0xd8a1e681, 0xe7d3fbc8,
    0x21e1cde6, 0xc33707d6, 0xf4d50d87, 0x455a14ed, 0xa9e3e905, 0xfcefa3f8, 0x676f02d9, 0x8d2a4c8a,
    0xfffa3942, 0x8771f681, 0x6d9d6122, 0xfde5380c, 0xa4beea44, 0x4bdecfa9, 0xf6bb4b60, 0xbebfbc70,
    0x289b7ec6, 0xeaa127fa, 0xd4ef3085, 0x04881d05, 0xd9d4d039, 0xe6db99e5, 0x1fa27cf8, 0xc4ac5665,
    0xf4292244, 0x432aff97, 0xab9423a7, 0xfc93a039, 0x655b59c3, 0x8f0ccc92, 0xffeff47d, 0x85845dd1,
    0x6fa87e4f, 0xfe2ce6e0, 0xa3014314, 0x4e0811a1, 0xf7537e82, 0xbd3af235, 0x2ad7d2bb, 0xeb86d391]

/-- How far words are turned, in four rows of rounds. -/
def fourTurns : Array (Array Nat) :=
  #[#[7, 12, 17, 22], #[5, 9, 14, 20], #[4, 11, 16, 23], #[6, 10, 15, 21]]

/-- The word of a block that a round of four words takes, and what it makes of three words. -/
def fourRound (i : Nat) (b c d : BitVec 32) : Nat × BitVec 32 :=
  match i / 16 with
  | 0 => (i, choice b c d)
  | 1 => ((5 * i + 1) % 16, choice d b c)
  | 2 => ((3 * i + 5) % 16, parity b c d)
  | _ => (7 * i % 16, c ^^^ (b ||| ~~~d))

/-- A block mixed into four words. -/
def fourMixed (old block : Words 32) : Words 32 :=
  sums old <| (List.range 64).foldl (fun ws i =>
    let a := word ws 0
    let b := word ws 1
    let c := word ws 2
    let d := word ws 3
    let (k, f) := fourRound i b c d
    let turn := (fourTurns.getD (i / 16) #[]).getD (i % 4) 0
    #[d, b + (a + f + word fourAdded i + word block k).rotateLeft turn, b, c]) old

/-- The words that digests of four and five words start with. -/
def fiveStart : Words 32 := #[0x67452301, 0xefcdab89, 0x98badcfe, 0x10325476, 0xc3d2e1f0]

/-- The method with four words. -/
def Method.md5 : Method := ⟨"MD5", 32, true, fiveStart.take 4, fourMixed, 32⟩

/-! ## A digest of five words -/

/-- What a round of five words makes of three words, and what it adds. -/
def fiveRound (i : Nat) (b c d : BitVec 32) : BitVec 32 × BitVec 32 :=
  match i / 20 with
  | 0 => (choice b c d, 0x5a827999)
  | 1 => (parity b c d, 0x6ed9eba1)
  | 2 => (majority b c d, 0x8f1bbcdc)
  | _ => (parity b c d, 0xca62c1d6)

/-- A block mixed into five words. -/
def fiveMixed (old block : Words 32) : Words 32 :=
  let rows := extended
    (fun back => (back 3 ^^^ back 8 ^^^ back 14 ^^^ back 16).rotateLeft 1) 64 block
  sums old <| (List.range 80).foldl (fun ws i =>
    let a := word ws 0
    let b := word ws 1
    let c := word ws 2
    let d := word ws 3
    let (f, added) := fiveRound i b c d
    #[a.rotateLeft 5 + f + word ws 4 + added + word rows i, a, b.rotateLeft 30, c, d]) old

/-- The method with five words. -/
def Method.sha1 : Method := ⟨"SHA1", 32, false, fiveStart, fiveMixed, 40⟩

/-! ## Digests of eight words -/

/-- How far the words of a width are turned or moved in digests of eight words. -/
structure Turns where
  high : Nat × Nat × Nat
  low : Nat × Nat × Nat
  later : Nat × Nat × Nat
  earlier : Nat × Nat × Nat
  /-- How many rounds there are. -/
  rounds : Nat

/-- The turns of short words. -/
def shortTurns : Turns := ⟨(2, 13, 22), (6, 11, 25), (17, 19, 10), (7, 18, 3), 64⟩

/-- The turns of long words. -/
def longTurns : Turns := ⟨(28, 34, 39), (14, 18, 41), (19, 61, 6), (1, 8, 7), 80⟩

/-- A word turned in three ways. -/
def turned {width : Nat} (t : Nat × Nat × Nat) (x : BitVec width) : BitVec width :=
  x.rotateRight t.1 ^^^ x.rotateRight t.2.1 ^^^ x.rotateRight t.2.2

/-- A word turned in two ways and moved in one. -/
def moved {width : Nat} (t : Nat × Nat × Nat) (x : BitVec width) : BitVec width :=
  x.rotateRight t.1 ^^^ x.rotateRight t.2.1 ^^^ x >>> t.2.2

/-- The constants of the rounds: cube roots of primes. -/
def eightAdded (width : Nat) : Words width := (primes.map (fraction width 3)).toArray

/-- The constants of short words. -/
def shortAdded : Words 32 := eightAdded 32

/-- The constants of long words. -/
def longAdded : Words 64 := eightAdded 64

/-- A block mixed into eight words. -/
def eightMixed {width : Nat} (t : Turns) (added old block : Words width) : Words width :=
  let rows := extended
    (fun back => moved t.later (back 2) + back 7 + moved t.earlier (back 15) + back 16)
    (t.rounds - 16) block
  sums old <| (List.range t.rounds).foldl (fun ws i =>
    let a := word ws 0
    let e := word ws 4
    let one := word ws 7 + turned t.low e + choice e (word ws 5) (word ws 6) + word added i
      + word rows i
    let other := turned t.high a + majority a (word ws 1) (word ws 2)
    #[one + other, a, word ws 1, word ws 2, word ws 3 + one, e, word ws 5, word ws 6]) old

/-- Square roots of eight primes behind the first ones. -/
def roots (width first : Nat) : Words width :=
  (((primes.drop first).take 8).map (fraction width 2)).toArray

/-- The method with eight short words. -/
def Method.sha256 : Method :=
  ⟨"SHA256", 32, false, roots 32 0, eightMixed shortTurns shortAdded, 64⟩

/-- The method with eight short words of which seven are the digest. -/
def Method.sha224 : Method :=
  ⟨"SHA224", 32, false, (roots 64 8).map (·.truncate 32), eightMixed shortTurns shortAdded, 56⟩

/-- The method with eight long words. -/
def Method.sha512 : Method := ⟨"SHA512", 64, false, roots 64 0, eightMixed longTurns longAdded, 128⟩

/-- The method with eight long words of which six are the digest. -/
def Method.sha384 : Method := ⟨"SHA384", 64, false, roots 64 8, eightMixed longTurns longAdded, 96⟩

/-! ## Texts -/

/-- The bytes of a number in so many places, the one of most weight first. -/
def bytesOf (count n : Nat) : Bytes :=
  (List.range count).map fun i => byteChar (n / Nat.pow 256 (count - 1 - i))

namespace Method

/-- The bytes of a number in the order of a method. -/
def ordered (m : Method) (cs : Bytes) : Bytes := if m.lowFirst then cs.reverse else cs

/-- How many bytes a word has. -/
def wordSize (m : Method) : Nat := m.width / 8

/-- How many bytes a block has. -/
def blockSize (m : Method) : Nat := 16 * m.wordSize

/-- A text filled up to whole blocks. -/
def filled (m : Method) (cs : Bytes) : Bytes :=
  let size := cs.length
  let place := 2 * m.wordSize
  let zeros := (2 * m.blockSize - (size % m.blockSize + 1 + place)) % m.blockSize
  cs ++ '\x80' :: List.replicate zeros '\x00' ++ m.ordered (bytesOf place (8 * size))

/-- The words of a block. -/
def block (m : Method) (cs : Bytes) : Words m.width :=
  ((List.range 16).map fun i =>
    let bytes := m.ordered ((cs.drop (i * m.wordSize)).take m.wordSize)
    BitVec.ofNat m.width (bytes.foldl (fun n c => n * 256 + c.toNat) 0)).toArray

/-- So many blocks of a text mixed into words. -/
def mixedIn (m : Method) : Nat → Words m.width → Bytes → Words m.width
  | 0, ws, _ => ws
  | n + 1, ws, cs =>
    m.mixedIn n (m.mixed ws (m.block (cs.take m.blockSize))) (cs.drop m.blockSize)

/-- The digest of a text, in hexadecimal digits. -/
def digest (m : Method) (cs : Bytes) : Bytes :=
  let text := m.filled cs
  let ws := m.mixedIn (text.length / m.blockSize) m.start text
  let bytes := ws.toList.flatMap fun w => m.ordered (bytesOf m.wordSize w.toNat)
  (bytes.flatMap fun c =>
    [Nat.digitChar (c.toNat / 16), Nat.digitChar (c.toNat % 16)]).take m.size

end Method

/-! ## Checksums -/

/-- A remainder with one bit more. -/
def shiftedIn (r : BitVec 32) : BitVec 32 := if r.msb then r <<< 1 ^^^ 0x04c11db7 else r <<< 1

/-- The remainders of bytes in front of others. -/
def remainders : Words 32 :=
  ((List.range 256).map fun n =>
    (List.range 8).foldl (fun r _ => shiftedIn r) (BitVec.ofNat 32 (n * Nat.pow 2 24))).toArray

/-- The remainder with one byte more. -/
def withByte (r : BitVec 32) (c : Char) : BitVec 32 :=
  r <<< 8 ^^^ word remainders ((r >>> 24).toNat ^^^ c.toNat % 256)

/-- The bytes of a length, the one of least weight first, as far as there is one. -/
def lengthBytes (size : Nat) : Bytes :=
  ((bytesOf 16 size).dropWhile (· = '\x00')).reverse

/-- The checksum of a text with its length behind it. -/
def checksum (cs : Bytes) : Nat :=
  (~~~((cs ++ lengthBytes cs.length).foldl withByte 0)).toNat

end ActionTree.Sh.Digest
