import FileScript.Shell.Octets

/-!
# Digests

Numbers of a fixed size that are computed from all bytes of a message. The larger ones add up what a
function makes of the blocks of the message, one after the other; the message is filled up to whole
blocks before, and ends with its own length. Their constants are fractions of roots of primes.
-/

namespace FileScript.Shell.Digest

/-! ## Numbers of bytes -/

/-- The number that bytes make up, of which the first one counts most. -/
def ofBig (bytes : List UInt8) : Nat := bytes.foldl (fun n b => 256 * n + b.toNat) 0

/-- The lowest bytes of a number, of which the first one counts least. -/
def little : (size n : Nat) → List UInt8
  | 0, _ => []
  | size + 1, n => UInt8.ofNat n :: little size (n / 256)

/-- The bytes of a number in an order. -/
def bytesOf (big : Bool) (size n : Nat) : List UInt8 :=
  if big then (little size n).reverse else little size n

/-- The number of bytes in an order. -/
def numberOf (big : Bool) (bytes : List UInt8) : Nat := ofBig (if big then bytes else bytes.reverse)

/-- A list cut into pieces of a size. -/
def cut {α : Type} (size : Nat) (items : List α) : List (List α) :=
  (List.range ((items.length + size - 1) / size)).map fun i => (items.drop (i * size)).take size

/-! ## Blocks -/

/-- How a digest is made of words with so many bits. -/
structure Scheme (width : Nat) where
  /-- Whether the first byte of a word counts most. -/
  big : Bool
  /-- How many bytes the digest has. -/
  size : Nat
  start : List (BitVec width)
  /-- What is made of the words of a block, after some words. -/
  mixed : List (BitVec width) → List (BitVec width) → List (BitVec width)

namespace Scheme

variable {width : Nat}

/-- The size of a word in bytes. -/
def wordSize (_ : Scheme width) : Nat := width / 8

/-- A message that has been filled up to whole blocks of 16 words. The last two words hold its length
in bits. -/
def padded (s : Scheme width) (message : List UInt8) : List UInt8 :=
  let block := 16 * s.wordSize
  let tail := 2 * s.wordSize
  let used := message.length + 1 + tail
  let gap := (block - used % block) % block
  message ++ 0x80 :: List.replicate gap 0 ++ bytesOf s.big tail (8 * message.length)

/-- The words that are left after a block. -/
def add (s : Scheme width) (state : List (BitVec width)) (block : List UInt8) :
    List (BitVec width) :=
  let words := (cut s.wordSize block).map fun bytes => BitVec.ofNat width (numberOf s.big bytes)
  List.zipWith (· + ·) state (s.mixed state words)

/-- The digest of a message. -/
def digest (s : Scheme width) (message : List UInt8) : List UInt8 :=
  let blocks := cut (16 * s.wordSize) (s.padded message)
  let state := blocks.foldl s.add s.start
  (state.flatMap fun word => bytesOf s.big s.wordSize word.toNat).take s.size

end Scheme

/-! ## Constants -/

/-- The first primes. -/
def primes : List Nat := (List.range 410).filter fun n =>
  2 ≤ n && (List.range n).all fun d => d < 2 || n % d ≠ 0

/-- The greatest number whose power is not above another number, which is below
`2 ^ bits`. -/
def root (power n bits : Nat) : Nat :=
  (List.range bits).reverse.foldl (fun found bit =>
    let next := found + Nat.pow 2 bit
    if Nat.pow next power ≤ n then next else found) 0

/-- The first 64 bits behind the point of a root of a number. -/
def rootFraction (power n : Nat) : Nat :=
  root power (n * Nat.pow 2 (64 * power)) 72 % Nat.pow 2 64

/-- The fractions of the square roots of some primes, as words. Of smaller words, the first or the
last bits are meant. -/
def squareRoots (width : Nat) (isLow : Bool) (primes : List Nat) : List (BitVec width) :=
  primes.map fun p =>
    BitVec.ofNat width (rootFraction 2 p / if isLow then 1 else Nat.pow 2 (64 - width))

/-- The fractions of the cube roots of the first primes, as words. -/
def cubeRoots (width : Nat) : List (BitVec width) :=
  primes.map fun p => BitVec.ofNat width (rootFraction 3 p / Nat.pow 2 (64 - width))

/-! ## Digests with rotations to the right -/

/-- How far words are moved: by two rotations, and by a third one or by a shift. -/
structure Turns where
  first : Nat
  second : Nat
  third : Nat

namespace Turns

variable {width : Nat}

/-- A word moved in three ways, the last one a rotation. -/
def whole (t : Turns) (x : BitVec width) : BitVec width :=
  x.rotateRight t.first ^^^ x.rotateRight t.second ^^^ x.rotateRight t.third

/-- A word moved in three ways, the last one a shift. -/
def shifted (t : Turns) (x : BitVec width) : BitVec width :=
  x.rotateRight t.first ^^^ x.rotateRight t.second ^^^ x >>> t.third

end Turns

/-- The words of a block with so many more, the last one first. -/
def extended {width : Nat} (near far : Turns) (count : Nat) (words : List (BitVec width)) :
    List (BitVec width) :=
  (List.range count).foldl (fun found _ =>
    let word (i : Nat) : BitVec width := found.getD i 0
    (near.shifted (word 1) + word 6 + far.shifted (word 14) + word 15) :: found) words.reverse

/-- One round. -/
def turned {width : Nat} (forward back : Turns) (state : List (BitVec width))
    (constant word : BitVec width) : List (BitVec width) :=
  match state with
  | [a, b, c, d, e, f, g, h] =>
    let choice := (e &&& f) ^^^ (~~~e &&& g)
    let majority := (a &&& b) ^^^ (a &&& c) ^^^ (b &&& c)
    let first := h + forward.whole e + choice + constant + word
    [first + back.whole a + majority, a, b, c, d + first, e, f, g]
  | _ => state

/-- Rounds over an extended block. -/
def turnedAll {width : Nat} (forward back near far : Turns) (constants : List (BitVec width))
    (state words : List (BitVec width)) : List (BitVec width) :=
  let words := (extended near far (constants.length - 16) words).reverse
  (constants.zip words).foldl (fun state (constant, word) => turned forward back state constant word)
    state

/-- The constants of digests with words of 32 bits. -/
def shortConstants : List (BitVec 32) := (cubeRoots 32).take 64

/-- The constants of digests with words of 64 bits. -/
def longConstants : List (BitVec 64) := cubeRoots 64

/-- Digests with words of 32 bits. -/
def short (size : Nat) (start : List (BitVec 32)) : Scheme 32 where
  big := true
  size
  start
  mixed := turnedAll ⟨6, 11, 25⟩ ⟨2, 13, 22⟩ ⟨17, 19, 10⟩ ⟨7, 18, 3⟩ shortConstants

/-- Digests with words of 64 bits. -/
def large (size : Nat) (start : List (BitVec 64)) : Scheme 64 where
  big := true
  size
  start
  mixed := turnedAll ⟨14, 18, 41⟩ ⟨28, 34, 39⟩ ⟨19, 61, 6⟩ ⟨1, 8, 7⟩ longConstants

/-- The digest of 224 bits. -/
def sha224 : Scheme 32 := short 28 (squareRoots 32 true ((primes.drop 8).take 8))

/-- The digest of 256 bits. -/
def sha256 : Scheme 32 := short 32 (squareRoots 32 false (primes.take 8))

/-- The digest of 384 bits. -/
def sha384 : Scheme 64 := large 48 (squareRoots 64 true ((primes.drop 8).take 8))

/-- The digest of 512 bits. -/
def sha512 : Scheme 64 := large 64 (squareRoots 64 true (primes.take 8))

/-! ## Digests with rotations to the left -/

/-- The words with which shorter digests begin. -/
def plainStart : List (BitVec 32) := [0x67452301, 0xefcdab89, 0x98badcfe, 0x10325476, 0xc3d2e1f0]

/-- One round of the digest of 160 bits, with its number. -/
def turnedLeft (state : List (BitVec 32)) (round : Nat) (word : BitVec 32) : List (BitVec 32) :=
  match state with
  | [a, b, c, d, e] =>
    let parity := b ^^^ c ^^^ d
    let (mixed, constant) : BitVec 32 × BitVec 32 :=
      if round < 20 then ((b &&& c) ||| (~~~b &&& d), 0x5a827999)
      else if round < 40 then (parity, 0x6ed9eba1)
      else if round < 60 then ((b &&& c) ||| (b &&& d) ||| (c &&& d), 0x8f1bbcdc)
      else (parity, 0xca62c1d6)
    [a.rotateLeft 5 + mixed + e + constant + word, a, b.rotateLeft 30, c, d]
  | _ => state

/-- The digest of 160 bits. -/
def sha1 : Scheme 32 where
  big := true
  size := 20
  start := plainStart
  mixed state words :=
    let words := (List.range 64).foldl (fun found _ =>
      let word (i : Nat) : BitVec 32 := found.getD i 0
      (word 2 ^^^ word 7 ^^^ word 13 ^^^ word 15).rotateLeft 1 :: found) words.reverse
    words.reverse.zipIdx.foldl (fun state (word, round) => turnedLeft state round word) state

/-- The sines of the first whole numbers, without their signs, in parts of `2 ^ 32`. -/
def sines : List (BitVec 32) :=
  [0xd76aa478, 0xe8c7b756, 0x242070db, 0xc1bdceee, 0xf57c0faf, 0x4787c62a, 0xa8304613, 0xfd469501,
    0x698098d8, 0x8b44f7af, 0xffff5bb1, 0x895cd7be, 0x6b901122, 0xfd987193, 0xa679438e, 0x49b40821,
    0xf61e2562, 0xc040b340, 0x265e5a51, 0xe9b6c7aa, 0xd62f105d, 0x02441453, 0xd8a1e681, 0xe7d3fbc8,
    0x21e1cde6, 0xc33707d6, 0xf4d50d87, 0x455a14ed, 0xa9e3e905, 0xfcefa3f8, 0x676f02d9, 0x8d2a4c8a,
    0xfffa3942, 0x8771f681, 0x6d9d6122, 0xfde5380c, 0xa4beea44, 0x4bdecfa9, 0xf6bb4b60, 0xbebfbc70,
    0x289b7ec6, 0xeaa127fa, 0xd4ef3085, 0x04881d05, 0xd9d4d039, 0xe6db99e5, 0x1fa27cf8, 0xc4ac5665,
    0xf4292244, 0x432aff97, 0xab9423a7, 0xfc93a039, 0x655b59c3, 0x8f0ccc92, 0xffeff47d, 0x85845dd1,
    0x6fa87e4f, 0xfe2ce6e0, 0xa3014314, 0x4e0811a1, 0xf7537e82, 0xbd3af235, 0x2ad7d2bb, 0xeb86d391]

/-- One round of the digest of 128 bits, with its number. -/
def turnedMixed (words : List (BitVec 32)) (state : List (BitVec 32)) (round : Nat)
    (constant : BitVec 32) : List (BitVec 32) :=
  match state with
  | [a, b, c, d] =>
    let (mixed, index, turns) : BitVec 32 × Nat × List Nat :=
      if round < 16 then ((b &&& c) ||| (~~~b &&& d), round, [7, 12, 17, 22])
      else if round < 32 then ((d &&& b) ||| (~~~d &&& c), 5 * round + 1, [5, 9, 14, 20])
      else if round < 48 then (b ^^^ c ^^^ d, 3 * round + 5, [4, 11, 16, 23])
      else (c ^^^ (b ||| ~~~d), 7 * round, [6, 10, 15, 21])
    let sum := a + mixed + constant + words.getD (index % 16) 0
    [d, b + sum.rotateLeft (turns.getD (round % 4) 0), b, c]
  | _ => state

/-- The digest of 128 bits. -/
def md5 : Scheme 32 where
  big := false
  size := 16
  start := plainStart.take 4
  mixed state words :=
    sines.zipIdx.foldl (fun state (constant, round) => turnedMixed words state round constant) state

/-! ## Small digests -/

/-- A remainder with one more byte. -/
def remainderStep (n : BitVec 32) (b : UInt8) : BitVec 32 :=
  (List.range 8).foldl (fun n _ =>
    if n.msb then n <<< 1 ^^^ 0x04c11db7 else n <<< 1) (n ^^^ BitVec.ofNat 32 b.toNat <<< 24)

/-- The bytes of a number, of which the first one counts least, without zeros at the end. -/
def shortest : (fuel n : Nat) → List UInt8
  | 0, _ => []
  | fuel + 1, n => if n = 0 then [] else UInt8.ofNat n :: shortest fuel (n / 256)

/-- The remainder of a message and its length by a polynomial over two elements. -/
def remainder (message : List UInt8) : Nat :=
  let bytes := message ++ shortest 16 message.length
  (~~~(bytes.foldl remainderStep 0)).toNat

/-- The sum of all bytes in 16 bits, where the sum is rotated before each byte. -/
def rotatingSum (message : List UInt8) : Nat :=
  message.foldl (fun n b => (n / 2 + n % 2 * 0x8000 + b.toNat) % 0x10000) 0

/-- The sum of all bytes, folded to 16 bits. -/
def foldedSum (message : List UInt8) : Nat :=
  let sum := message.foldl (fun n b => n + b.toNat) 0 % Nat.pow 2 32
  let folded := sum % 0x10000 + sum / 0x10000
  folded % 0x10000 + folded / 0x10000

/-! ## Text -/

/-- Bytes as digits of base 16. -/
def shown (bytes : List UInt8) : String :=
  String.join (bytes.map fun b => Octets.padded 2 b.toNat 16)

end FileScript.Shell.Digest
