/-
Identifiers of contests, calendar events and feeds. A contest is named by its
platform and start time, an event by the MD5 digest of the Google id and the
contest id in lower-case base32hex, a feed by a SHA-256 digest in hexadecimal.

The digests are computed on lists of bytes. No theorem relies on their strength:
where two contests must have different events, the statement says so.
-/

import Mathlib.Algebra.Group.Nat.Defs
import Mathlib.Data.List.Infix

namespace ContestSync

/-- `fmt.Sprintf("%s_%d", platform, startTime)`. -/
def generateContestID (platform : String) (startTime : Int) : String :=
  platform ++ "_" ++ toString startTime

theorem underscore_notMem_toString (number : Int) : '_' ∉ (toString number).toList := by
  cases number with
  | ofNat value => simp [toString, Int.repr]
  | negSucc value => simp [toString, Int.repr]

/-- Texts that are put together at a symbol which the second part does not hold. -/
theorem append_cons_inj_right {α : Type} {symbol : α} {left right first second : List α}
    (absentLeft : symbol ∉ first) (absentRight : symbol ∉ second)
    (same : left ++ symbol :: first = right ++ symbol :: second) :
    left = right ∧ first = second := by
  rcases List.append_eq_append_iff.mp same with ⟨between, rightIs, tail⟩ | ⟨between, leftIs, tail⟩
  · cases between with
    | nil =>
      rw [List.append_nil] at rightIs
      exact ⟨rightIs.symm, (List.cons.inj tail).2⟩
    | cons _ rest =>
      have inside : symbol ∈ first := by
        rw [(List.cons.inj tail).2]
        exact List.mem_append_right rest List.mem_cons_self
      exact absurd inside absentLeft
  · cases between with
    | nil =>
      rw [List.append_nil] at leftIs
      exact ⟨leftIs, (List.cons.inj tail).2.symm⟩
    | cons _ rest =>
      have inside : symbol ∈ second := by
        rw [(List.cons.inj tail).2]
        exact List.mem_append_right rest List.mem_cons_self
      exact absurd inside absentRight

theorem platform_of_generateContestID {platform other : String} {startTime otherTime : Int}
    (same : generateContestID platform startTime = generateContestID other otherTime) :
    platform = other := by
  have lists := congrArg String.toList same
  simp only [generateContestID, String.toList_append, List.append_assoc] at lists
  obtain ⟨platforms, _⟩ := append_cons_inj_right (underscore_notMem_toString startTime)
    (underscore_notMem_toString otherTime) lists
  exact String.toList_inj.mp platforms

namespace MD5

structure Digest where
  a : UInt32
  b : UInt32
  c : UInt32
  d : UInt32

def initial : Digest :=
  { a := 0x67452301
    b := 0xefcdab89
    c := 0x98badcfe
    d := 0x10325476 }

/-- The left rotations of the four rounds; each round repeats its row. -/
def rotations : List (List UInt32) :=
  [[7, 12, 17, 22], [5, 9, 14, 20], [4, 11, 16, 23], [6, 10, 15, 21]]

/-- The integer part of `2^32 * |sin (index + 1)|`. -/
def sines : List UInt32 := [ 0xd76aa478, 0xe8c7b756, 0x242070db, 0xc1bdceee,
  0xf57c0faf, 0x4787c62a, 0xa8304613, 0xfd469501,
  0x698098d8, 0x8b44f7af, 0xffff5bb1, 0x895cd7be,
  0x6b901122, 0xfd987193, 0xa679438e, 0x49b40821,
  0xf61e2562, 0xc040b340, 0x265e5a51, 0xe9b6c7aa,
  0xd62f105d, 0x02441453, 0xd8a1e681, 0xe7d3fbc8,
  0x21e1cde6, 0xc33707d6, 0xf4d50d87, 0x455a14ed,
  0xa9e3e905, 0xfcefa3f8, 0x676f02d9, 0x8d2a4c8a,
  0xfffa3942, 0x8771f681, 0x6d9d6122, 0xfde5380c,
  0xa4beea44, 0x4bdecfa9, 0xf6bb4b60, 0xbebfbc70,
  0x289b7ec6, 0xeaa127fa, 0xd4ef3085, 0x04881d05,
  0xd9d4d039, 0xe6db99e5, 0x1fa27cf8, 0xc4ac5665,
  0xf4292244, 0x432aff97, 0xab9423a7, 0xfc93a039,
  0x655b59c3, 0x8f0ccc92, 0xffeff47d, 0x85845dd1,
  0x6fa87e4f, 0xfe2ce6e0, 0xa3014314, 0x4e0811a1,
  0xf7537e82, 0xbd3af235, 0x2ad7d2bb, 0xeb86d391]

def rotateLeft (word amount : UInt32) : UInt32 :=
  (word <<< amount) ||| (word >>> (32 - amount))

/-- The mixing function of a round and the message word its step reads. -/
def mix (index : Nat) (digest : Digest) : UInt32 × Nat :=
  match index / 16 with
  | 0 => ((digest.b &&& digest.c) ||| (~~~digest.b &&& digest.d), index)
  | 1 => ((digest.d &&& digest.b) ||| (~~~digest.d &&& digest.c), (5 * index + 1) % 16)
  | 2 => (digest.b ^^^ digest.c ^^^ digest.d, (3 * index + 5) % 16)
  | _ => (digest.c ^^^ (digest.b ||| ~~~digest.d), (7 * index) % 16)

def step (words : List UInt32) (digest : Digest) (index : Nat) : Digest :=
  let mixed := mix index digest
  let sum := mixed.1 + digest.a + sines.getD index 0 + words.getD mixed.2 0
  let amount := (rotations.getD (index / 16) []).getD (index % 4) 0
  { a := digest.d
    b := digest.b + rotateLeft sum amount
    c := digest.b
    d := digest.c }

def compress (digest : Digest) (words : List UInt32) : Digest :=
  let mixed := (List.range 64).foldl (step words) digest
  { a := digest.a + mixed.a
    b := digest.b + mixed.b
    c := digest.c + mixed.c
    d := digest.d + mixed.d }

/-- Little-endian words of a message; the padded length is a multiple of four. -/
def wordsOf : List UInt8 → List UInt32
  | first :: second :: third :: fourth :: rest =>
    (first.toUInt32 ||| (second.toUInt32 <<< 8) ||| (third.toUInt32 <<< 16) |||
      (fourth.toUInt32 <<< 24)) :: wordsOf rest
  | _ => []

def littleEndian (count value : Nat) : List UInt8 :=
  (List.range count).map fun index => UInt8.ofNat (value / 256 ^ index % 256)

def pad (message : List UInt8) : List UInt8 :=
  message ++ 0x80 :: List.replicate ((119 - message.length % 64) % 64) 0 ++
    littleEndian 8 (8 * message.length)

def blocks : Nat → List UInt32 → List (List UInt32)
  | 0, _ => []
  | count + 1, words => words.take 16 :: blocks count (words.drop 16)

def sum (message : List UInt8) : List UInt8 :=
  let words := wordsOf (pad message)
  let digest := (blocks (words.length / 16) words).foldl compress initial
  littleEndian 4 digest.a.toNat ++ littleEndian 4 digest.b.toNat ++
    littleEndian 4 digest.c.toNat ++ littleEndian 4 digest.d.toNat

end MD5

namespace Base32Hex

def alphabet : List Char :=
  "0123456789ABCDEFGHIJKLMNOPQRSTUV".toList

def bitsOf (byte : UInt8) : List Bool :=
  (List.range 8).map fun index => byte.toNat / 2 ^ (7 - index) % 2 == 1

def digit (bits : List Bool) : Char :=
  alphabet.getD (bits.foldl (fun value bit => 2 * value + bit.toNat) 0) '0'

/-- Groups of five bits, the last one filled up with zeros; no padding. -/
def groups : List Bool → List Char
  | first :: second :: third :: fourth :: fifth :: rest =>
    digit [first, second, third, fourth, fifth] :: groups rest
  | [] => []
  | short => [digit (short ++ List.replicate (5 - short.length) false)]

def encode (bytes : List UInt8) : String :=
  String.ofList (groups (bytes.flatMap bitsOf))

end Base32Hex

namespace SHA256

/-- The first 32 bits of the fractional parts of the cube roots of primes. -/
def constants : List UInt32 := [ 0x428a2f98, 0x71374491, 0xb5c0fbcf, 0xe9b5dba5,
  0x3956c25b, 0x59f111f1, 0x923f82a4, 0xab1c5ed5,
  0xd807aa98, 0x12835b01, 0x243185be, 0x550c7dc3,
  0x72be5d74, 0x80deb1fe, 0x9bdc06a7, 0xc19bf174,
  0xe49b69c1, 0xefbe4786, 0x0fc19dc6, 0x240ca1cc,
  0x2de92c6f, 0x4a7484aa, 0x5cb0a9dc, 0x76f988da,
  0x983e5152, 0xa831c66d, 0xb00327c8, 0xbf597fc7,
  0xc6e00bf3, 0xd5a79147, 0x06ca6351, 0x14292967,
  0x27b70a85, 0x2e1b2138, 0x4d2c6dfc, 0x53380d13,
  0x650a7354, 0x766a0abb, 0x81c2c92e, 0x92722c85,
  0xa2bfe8a1, 0xa81a664b, 0xc24b8b70, 0xc76c51a3,
  0xd192e819, 0xd6990624, 0xf40e3585, 0x106aa070,
  0x19a4c116, 0x1e376c08, 0x2748774c, 0x34b0bcb5,
  0x391c0cb3, 0x4ed8aa4a, 0x5b9cca4f, 0x682e6ff3,
  0x748f82ee, 0x78a5636f, 0x84c87814, 0x8cc70208,
  0x90befffa, 0xa4506ceb, 0xbef9a3f7, 0xc67178f2]

def initial : List UInt32 := [ 0x6a09e667, 0xbb67ae85, 0x3c6ef372, 0xa54ff53a,
  0x510e527f, 0x9b05688c, 0x1f83d9ab, 0x5be0cd19]

def rotateRight (word amount : UInt32) : UInt32 :=
  (word >>> amount) ||| (word <<< (32 - amount))

/-- Extend a window of sixteen words; `recent` holds the schedule backwards. -/
def extend (recent : List UInt32) : UInt32 :=
  let early := recent.getD 14 0
  let late := recent.getD 1 0
  recent.getD 15 0 +
    (rotateRight early 7 ^^^ rotateRight early 18 ^^^ (early >>> 3)) + recent.getD 6 0 +
    (rotateRight late 17 ^^^ rotateRight late 19 ^^^ (late >>> 10))

def schedule (words : List UInt32) : List UInt32 :=
  ((List.range 48).foldl (fun recent _ => extend recent :: recent) words.reverse).reverse

def step (digest : List UInt32) (input : UInt32 × UInt32) : List UInt32 :=
  match digest with
  | [a, b, c, d, e, f, g, h] =>
    let first := h + (rotateRight e 6 ^^^ rotateRight e 11 ^^^ rotateRight e 25) +
      ((e &&& f) ^^^ (~~~e &&& g)) + input.1 + input.2
    let second := (rotateRight a 2 ^^^ rotateRight a 13 ^^^ rotateRight a 22) +
      ((a &&& b) ^^^ (a &&& c) ^^^ (b &&& c))
    [first + second, a, b, c, d + first, e, f, g]
  | other => other

def compress (digest words : List UInt32) : List UInt32 :=
  digest.zipWith (fun old new => old + new) ((constants.zip (schedule words)).foldl step digest)

def bigEndian (count value : Nat) : List UInt8 :=
  (MD5.littleEndian count value).reverse

def wordsOf : List UInt8 → List UInt32
  | first :: second :: third :: fourth :: rest =>
    ((first.toUInt32 <<< 24) ||| (second.toUInt32 <<< 16) ||| (third.toUInt32 <<< 8) |||
      fourth.toUInt32) :: wordsOf rest
  | _ => []

def pad (message : List UInt8) : List UInt8 :=
  message ++ 0x80 :: List.replicate ((119 - message.length % 64) % 64) 0 ++
    bigEndian 8 (8 * message.length)

def sum (message : List UInt8) : List UInt8 :=
  let words := wordsOf (pad message)
  ((MD5.blocks (words.length / 16) words).foldl compress initial).flatMap
    (fun word => bigEndian 4 word.toNat)

end SHA256

def hexDigit (value : Nat) : Char :=
  "0123456789abcdef".toList.getD value '0'

def hexEncode (bytes : List UInt8) : String :=
  String.ofList (bytes.flatMap (fun byte =>
    [hexDigit (byte.toNat / 16), hexDigit (byte.toNat % 16)]))

def feedToken (userID : Int) : String :=
  hexEncode (SHA256.sum (toString userID ++ "ical_feed_secret").toUTF8.toList)

def generateDeterministicEventID (googleID contestID : String) : String :=
  (Base32Hex.encode (MD5.sum (googleID ++ "_" ++ contestID).toUTF8.toList)).toLower

end ContestSync
