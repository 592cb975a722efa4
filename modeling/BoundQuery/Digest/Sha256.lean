/-!
The 256-bit secure hash: padding, message schedule and compression.
-/

set_option autoImplicit false

namespace BoundQuery.Sha256

def roundConstants : List UInt32 :=
  [0x428a2f98, 0x71374491, 0xb5c0fbcf, 0xe9b5dba5, 0x3956c25b, 0x59f111f1, 0x923f82a4, 0xab1c5ed5,
    0xd807aa98, 0x12835b01, 0x243185be, 0x550c7dc3, 0x72be5d74, 0x80deb1fe, 0x9bdc06a7, 0xc19bf174,
    0xe49b69c1, 0xefbe4786, 0x0fc19dc6, 0x240ca1cc, 0x2de92c6f, 0x4a7484aa, 0x5cb0a9dc, 0x76f988da,
    0x983e5152, 0xa831c66d, 0xb00327c8, 0xbf597fc7, 0xc6e00bf3, 0xd5a79147, 0x06ca6351, 0x14292967,
    0x27b70a85, 0x2e1b2138, 0x4d2c6dfc, 0x53380d13, 0x650a7354, 0x766a0abb, 0x81c2c92e, 0x92722c85,
    0xa2bfe8a1, 0xa81a664b, 0xc24b8b70, 0xc76c51a3, 0xd192e819, 0xd6990624, 0xf40e3585, 0x106aa070,
    0x19a4c116, 0x1e376c08, 0x2748774c, 0x34b0bcb5, 0x391c0cb3, 0x4ed8aa4a, 0x5b9cca4f, 0x682e6ff3,
    0x748f82ee, 0x78a5636f, 0x84c87814, 0x8cc70208, 0x90befffa, 0xa4506ceb, 0xbef9a3f7, 0xc67178f2]

structure State where
  a : UInt32
  b : UInt32
  c : UInt32
  d : UInt32
  e : UInt32
  f : UInt32
  g : UInt32
  h : UInt32

def State.initial : State :=
  ⟨0x6a09e667, 0xbb67ae85, 0x3c6ef372, 0xa54ff53a, 0x510e527f, 0x9b05688c, 0x1f83d9ab, 0x5be0cd19⟩

def State.words (state : State) : List UInt32 :=
  [state.a, state.b, state.c, state.d, state.e, state.f, state.g, state.h]

def State.add (left right : State) : State :=
  ⟨left.a + right.a, left.b + right.b, left.c + right.c, left.d + right.d, left.e + right.e,
    left.f + right.f, left.g + right.g, left.h + right.h⟩

def rotate (word : UInt32) (distance : UInt32) : UInt32 :=
  (word >>> distance) ||| (word <<< (32 - distance))

def smallSigma0 (word : UInt32) : UInt32 :=
  rotate word 7 ^^^ rotate word 18 ^^^ (word >>> 3)

def smallSigma1 (word : UInt32) : UInt32 :=
  rotate word 17 ^^^ rotate word 19 ^^^ (word >>> 10)

def largeSigma0 (word : UInt32) : UInt32 :=
  rotate word 2 ^^^ rotate word 13 ^^^ rotate word 22

def largeSigma1 (word : UInt32) : UInt32 :=
  rotate word 6 ^^^ rotate word 11 ^^^ rotate word 25

/-- Extends a schedule, held latest word first. -/
def extend (latest : List UInt32) : List UInt32 :=
  (smallSigma1 (latest.getD 1 0) + latest.getD 6 0 + smallSigma0 (latest.getD 14 0) +
    latest.getD 15 0) :: latest

def schedule (block : List UInt32) : List UInt32 :=
  (Nat.repeat extend 48 block.reverse).reverse

def step (state : State) (input : UInt32 × UInt32) : State :=
  let choice := (state.e &&& state.f) ^^^ (~~~state.e &&& state.g)
  let majority := (state.a &&& state.b) ^^^ (state.a &&& state.c) ^^^ (state.b &&& state.c)
  let first := state.h + largeSigma1 state.e + choice + input.1 + input.2
  let second := largeSigma0 state.a + majority
  ⟨first + second, state.a, state.b, state.c, state.d + first, state.e, state.f, state.g⟩

def compress (state : State) (block : List UInt32) : State :=
  state.add ((roundConstants.zip (schedule block)).foldl step state)

def toWords : List UInt8 → List UInt32
  | first :: second :: third :: fourth :: rest =>
      ((first.toUInt32 <<< 24) ||| (second.toUInt32 <<< 16) ||| (third.toUInt32 <<< 8) |||
        fourth.toUInt32) :: toWords rest
  | _ => []

/-- The lowest bytes of a number, most significant first. -/
def bigEndian (count number : Nat) : List UInt8 :=
  (List.range count).reverse.map (fun place => UInt8.ofNat (number / Nat.pow 256 place))

/-- One marking bit, zeros, and the length in bits fill the last block of 64 bytes. -/
def pad (message : List UInt8) : List UInt8 :=
  let zeros := (119 - message.length % 64) % 64
  message ++ 0x80 :: List.replicate zeros 0 ++ bigEndian 8 (8 * message.length)

def absorb (state : State) : Nat → List UInt32 → State
  | 0, _ => state
  | blocks + 1, words => absorb (compress state (words.take 16)) blocks (words.drop 16)

def hash (message : List UInt8) : List UInt8 :=
  let words := toWords (pad message)
  (absorb State.initial (words.length / 16) words).words.flatMap
    (fun word => bigEndian 4 word.toNat)

def hexByte (byte : UInt8) : List Char :=
  [Nat.digitChar (byte.toNat / 16), Nat.digitChar (byte.toNat % 16)]

def hexDigest (text : String) : List Char :=
  (hash text.toUTF8.toList).flatMap hexByte

end BoundQuery.Sha256
