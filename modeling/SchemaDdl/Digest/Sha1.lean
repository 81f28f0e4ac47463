/-!
# SHA-1

The 160-bit digest of a list of bytes. The message is padded to blocks of sixteen 32-bit words,
each block is extended to eighty words, and eighty rounds mix the words into five chaining values.

## Main definitions

* `Chain`: the five chaining values.
* `padded`: the message with its terminator and length.
* `sha1`: the digest.

## Main results

* `length_sha1`: a digest has twenty bytes.
-/

namespace SchemaDdl.Digest

/-- The five chaining values. -/
structure Chain where
  /-- First value. -/
  a : UInt32
  /-- Second value. -/
  b : UInt32
  /-- Third value. -/
  c : UInt32
  /-- Fourth value. -/
  d : UInt32
  /-- Fifth value. -/
  e : UInt32

/-- The chaining values before the first block. -/
def Chain.initial : Chain :=
  ⟨0x67452301, 0xEFCDAB89, 0x98BADCFE, 0x10325476, 0xC3D2E1F0⟩

/-- Rotates a word to the left. -/
def rotateLeft (x n : UInt32) : UInt32 :=
  (x <<< n) ||| (x >>> (32 - n))

/-- The four bytes of a word, most significant first. -/
def wordBytes (x : UInt32) : List UInt8 :=
  [(x >>> 24).toUInt8, (x >>> 16).toUInt8, (x >>> 8).toUInt8, x.toUInt8]

/-- The message followed by a set bit, zeros up to eight bytes before the end of a block, and the
message's length in bits. -/
def padded (bytes : List UInt8) : List UInt8 :=
  let bits := bytes.length * 8
  bytes ++ 0x80 :: List.replicate ((119 - bytes.length % 64) % 64) 0 ++
    wordBytes (UInt32.ofNat (bits / UInt32.size)) ++ wordBytes (UInt32.ofNat bits)

/-- Groups bytes into words, most significant byte first. -/
def wordsOf : List UInt8 → List UInt32
  | a :: b :: c :: d :: rest =>
    ((a.toUInt32 <<< 24) ||| (b.toUInt32 <<< 16) ||| (c.toUInt32 <<< 8) ||| d.toUInt32)
      :: wordsOf rest
  | _ => []

/-- Adds `n` words to a schedule that is held with its newest word first. -/
def extend : Nat → List UInt32 → List UInt32
  | 0, schedule => schedule
  | n + 1, schedule =>
    let word (i : Nat) := schedule.getD i 0
    extend n (rotateLeft (word 2 ^^^ word 7 ^^^ word 13 ^^^ word 15) 1 :: schedule)

/-- Mixes the word of round `t` into the chain. -/
def Chain.round (s : Chain) (t : Nat) (word : UInt32) : Chain :=
  let mixed : UInt32 × UInt32 :=
    if t < 20 then ((s.b &&& s.c) ||| (~~~s.b &&& s.d), 0x5A827999)
    else if t < 40 then (s.b ^^^ s.c ^^^ s.d, 0x6ED9EBA1)
    else if t < 60 then ((s.b &&& s.c) ||| (s.b &&& s.d) ||| (s.c &&& s.d), 0x8F1BBCDC)
    else (s.b ^^^ s.c ^^^ s.d, 0xCA62C1D6)
  ⟨rotateLeft s.a 5 + mixed.1 + s.e + mixed.2 + word, s.a, rotateLeft s.b 30, s.c, s.d⟩

/-- Works one block of sixteen words into the chain. -/
def Chain.absorb (s : Chain) (block : List UInt32) : Chain :=
  let schedule := (extend 64 block.reverse).reverse
  let t := schedule.zipIdx.foldl (fun s word => s.round word.2 word.1) s
  ⟨s.a + t.a, s.b + t.b, s.c + t.c, s.d + t.d, s.e + t.e⟩

/-- Works the words of a message into the chain, a block at a time. -/
def Chain.absorbAll (s : Chain) (words : List UInt32) : Chain :=
  if words.isEmpty then s
  else (s.absorb (words.take 16)).absorbAll (words.drop 16)
termination_by words.length
decreasing_by
  cases words with
  | nil => simp_all
  | cons w ws => simp only [List.length_drop, List.length_cons]; omega

/-- The bytes of the chaining values. -/
def Chain.bytes (s : Chain) : List UInt8 :=
  wordBytes s.a ++ wordBytes s.b ++ wordBytes s.c ++ wordBytes s.d ++ wordBytes s.e

/-- The SHA-1 digest of a message. -/
def sha1 (message : List UInt8) : List UInt8 :=
  (Chain.initial.absorbAll (wordsOf (padded message))).bytes

/-- A digest has twenty bytes. -/
theorem length_sha1 (message : List UInt8) : (sha1 message).length = 20 :=
  rfl

end SchemaDdl.Digest
