/-
SHA-256 over byte strings. A message is padded to whole blocks of sixteen big-endian words; each
block is expanded to a schedule of sixty-four words and folded into the chaining value.
-/

import CachingGateway.Text.Octets

namespace CachingGateway.Sha256

structure Chaining where
  a : UInt32
  b : UInt32
  c : UInt32
  d : UInt32
  e : UInt32
  f : UInt32
  g : UInt32
  h : UInt32
  deriving DecidableEq, Repr

def Chaining.initial : Chaining :=
  ⟨0x6a09e667, 0xbb67ae85, 0x3c6ef372, 0xa54ff53a, 0x510e527f, 0x9b05688c, 0x1f83d9ab, 0x5be0cd19⟩

def roundConstants : List UInt32 :=
  [0x428a2f98, 0x71374491, 0xb5c0fbcf, 0xe9b5dba5, 0x3956c25b, 0x59f111f1, 0x923f82a4, 0xab1c5ed5,
   0xd807aa98, 0x12835b01, 0x243185be, 0x550c7dc3, 0x72be5d74, 0x80deb1fe, 0x9bdc06a7, 0xc19bf174,
   0xe49b69c1, 0xefbe4786, 0x0fc19dc6, 0x240ca1cc, 0x2de92c6f, 0x4a7484aa, 0x5cb0a9dc, 0x76f988da,
   0x983e5152, 0xa831c66d, 0xb00327c8, 0xbf597fc7, 0xc6e00bf3, 0xd5a79147, 0x06ca6351, 0x14292967,
   0x27b70a85, 0x2e1b2138, 0x4d2c6dfc, 0x53380d13, 0x650a7354, 0x766a0abb, 0x81c2c92e, 0x92722c85,
   0xa2bfe8a1, 0xa81a664b, 0xc24b8b70, 0xc76c51a3, 0xd192e819, 0xd6990624, 0xf40e3585, 0x106aa070,
   0x19a4c116, 0x1e376c08, 0x2748774c, 0x34b0bcb5, 0x391c0cb3, 0x4ed8aa4a, 0x5b9cca4f, 0x682e6ff3,
   0x748f82ee, 0x78a5636f, 0x84c87814, 0x8cc70208, 0x90befffa, 0xa4506ceb, 0xbef9a3f7, 0xc67178f2]

def rotate (word amount : UInt32) : UInt32 :=
  (word >>> amount) ||| (word <<< (32 - amount))

def bigSigmaZero (word : UInt32) : UInt32 := rotate word 2 ^^^ rotate word 13 ^^^ rotate word 22
def bigSigmaOne (word : UInt32) : UInt32 := rotate word 6 ^^^ rotate word 11 ^^^ rotate word 25
def smallSigmaZero (word : UInt32) : UInt32 := rotate word 7 ^^^ rotate word 18 ^^^ (word >>> 3)
def smallSigmaOne (word : UInt32) : UInt32 := rotate word 17 ^^^ rotate word 19 ^^^ (word >>> 10)
def choose (e f g : UInt32) : UInt32 := (e &&& f) ^^^ ((~~~ e) &&& g)
def majority (a b c : UInt32) : UInt32 := (a &&& b) ^^^ (a &&& c) ^^^ (b &&& c)

def extendSchedule : Nat → List UInt32 → List UInt32
  | 0, latestFirst => latestFirst
  | remaining + 1, latestFirst =>
    let word := smallSigmaOne (latestFirst.getD 1 0) + latestFirst.getD 6 0 +
      smallSigmaZero (latestFirst.getD 14 0) + latestFirst.getD 15 0
    extendSchedule remaining (word :: latestFirst)

def schedule (block : List UInt32) : List UInt32 :=
  (extendSchedule 48 block.reverse).reverse

def Chaining.round (chaining : Chaining) (constant word : UInt32) : Chaining :=
  let first := chaining.h + bigSigmaOne chaining.e + choose chaining.e chaining.f chaining.g +
    constant + word
  let second := bigSigmaZero chaining.a + majority chaining.a chaining.b chaining.c
  { a := first + second, b := chaining.a, c := chaining.b, d := chaining.c,
    e := chaining.d + first, f := chaining.e, g := chaining.f, h := chaining.g }

def Chaining.add (left right : Chaining) : Chaining :=
  ⟨left.a + right.a, left.b + right.b, left.c + right.c, left.d + right.d,
    left.e + right.e, left.f + right.f, left.g + right.g, left.h + right.h⟩

def Chaining.absorb (chaining : Chaining) (block : List UInt32) : Chaining :=
  chaining.add ((roundConstants.zip (schedule block)).foldl
    (fun working step => working.round step.1 step.2) chaining)

def Chaining.absorbAll (chaining : Chaining) : List UInt32 → Chaining
  | [] => chaining
  | word :: rest =>
    (chaining.absorb ((word :: rest).take 16)).absorbAll (rest.drop 15)
  termination_by words => words.length
  decreasing_by simp only [List.length_drop, List.length_cons]; omega

/-- Big-endian words; a trailing group of fewer than four bytes is not a word. -/
def words : Octets → List UInt32
  | first :: second :: third :: fourth :: rest =>
    ((first.toUInt32 <<< 24) ||| (second.toUInt32 <<< 16) ||| (third.toUInt32 <<< 8) |||
      fourth.toUInt32) :: words rest
  | _ => []

def bigEndian (count number : Nat) : Octets :=
  (List.range count).reverse.map fun place => UInt8.ofNat (number / Nat.pow 256 place)

/-- The message, a one bit, zeros up to a block less eight bytes, and the length in bits. -/
def pad (message : Octets) : Octets :=
  let length := message.length
  let zeros := (119 - length % 64) % 64
  message ++ 0x80 :: (List.replicate zeros 0 ++ bigEndian 8 (8 * length))

def Chaining.octets (chaining : Chaining) : Octets :=
  [chaining.a, chaining.b, chaining.c, chaining.d, chaining.e, chaining.f, chaining.g,
    chaining.h].flatMap fun word => bigEndian 4 word.toNat

def digest (message : Octets) : Octets :=
  (Chaining.initial.absorbAll (words (pad message))).octets

end CachingGateway.Sha256
