import FoxessGateway.Library.ByteOrder

/-! # SHA-256

The hash of a byte string, and its hexadecimal digest. -/

namespace Sha256

open ByteOrder

def roundConstants : List UInt32 :=
  [0x428a2f98, 0x71374491, 0xb5c0fbcf, 0xe9b5dba5, 0x3956c25b, 0x59f111f1, 0x923f82a4, 0xab1c5ed5,
    0xd807aa98, 0x12835b01, 0x243185be, 0x550c7dc3, 0x72be5d74, 0x80deb1fe, 0x9bdc06a7, 0xc19bf174,
    0xe49b69c1, 0xefbe4786, 0x0fc19dc6, 0x240ca1cc, 0x2de92c6f, 0x4a7484aa, 0x5cb0a9dc, 0x76f988da,
    0x983e5152, 0xa831c66d, 0xb00327c8, 0xbf597fc7, 0xc6e00bf3, 0xd5a79147, 0x06ca6351, 0x14292967,
    0x27b70a85, 0x2e1b2138, 0x4d2c6dfc, 0x53380d13, 0x650a7354, 0x766a0abb, 0x81c2c92e, 0x92722c85,
    0xa2bfe8a1, 0xa81a664b, 0xc24b8b70, 0xc76c51a3, 0xd192e819, 0xd6990624, 0xf40e3585, 0x106aa070,
    0x19a4c116, 0x1e376c08, 0x2748774c, 0x34b0bcb5, 0x391c0cb3, 0x4ed8aa4a, 0x5b9cca4f, 0x682e6ff3,
    0x748f82ee, 0x78a5636f, 0x84c87814, 0x8cc70208, 0x90befffa, 0xa4506ceb, 0xbef9a3f7, 0xc67178f2]

structure State where
  a : UInt32
  b : UInt32
  c : UInt32
  d : UInt32
  e : UInt32
  f : UInt32
  g : UInt32
  h : UInt32
  deriving DecidableEq, Repr

def initial : State :=
  ⟨0x6a09e667, 0xbb67ae85, 0x3c6ef372, 0xa54ff53a, 0x510e527f, 0x9b05688c, 0x1f83d9ab, 0x5be0cd19⟩

def State.words (state : State) : List UInt32 :=
  [state.a, state.b, state.c, state.d, state.e, state.f, state.g, state.h]

def rotateRight (word count : UInt32) : UInt32 := (word >>> count) ||| (word <<< (32 - count))

/-- The message with a one bit, zeros and its length in bits, up to a whole number of blocks. -/
def pad (message : List UInt8) : List UInt8 :=
  message ++ [0x80] ++ List.replicate ((119 - message.length % 64) % 64) 0 ++
    toBig 8 (8 * message.length % 2 ^ 64)

def word (bytes : List UInt8) (index : Nat) : UInt32 :=
  UInt32.ofNat (fromBig ((bytes.drop (4 * index)).take 4))

/-- Sixteen words are the block's own, and each further one is made from those before it. -/
def schedule (block : List UInt8) : List UInt32 :=
  (List.range 48).foldl (fun words index =>
    let first := words.getD (index + 1) 0
    let second := words.getD (index + 14) 0
    let sigma0 := rotateRight first 7 ^^^ rotateRight first 18 ^^^ (first >>> 3)
    let sigma1 := rotateRight second 17 ^^^ rotateRight second 19 ^^^ (second >>> 10)
    words ++ [words.getD index 0 + sigma0 + words.getD (index + 9) 0 + sigma1])
    ((List.range 16).map (word block))

def round (state : State) (constant word : UInt32) : State :=
  let sum1 := rotateRight state.e 6 ^^^ rotateRight state.e 11 ^^^ rotateRight state.e 25
  let choice := (state.e &&& state.f) ^^^ (~~~state.e &&& state.g)
  let first := state.h + sum1 + choice + constant + word
  let sum0 := rotateRight state.a 2 ^^^ rotateRight state.a 13 ^^^ rotateRight state.a 22
  let majority := (state.a &&& state.b) ^^^ (state.a &&& state.c) ^^^ (state.b &&& state.c)
  ⟨first + (sum0 + majority), state.a, state.b, state.c, state.d + first, state.e, state.f, state.g⟩

def compress (state : State) (block : List UInt8) : State :=
  let final := (roundConstants.zip (schedule block)).foldl
    (fun state (constant, word) => round state constant word) state
  ⟨state.a + final.a, state.b + final.b, state.c + final.c, state.d + final.d, state.e + final.e,
    state.f + final.f, state.g + final.g, state.h + final.h⟩

def hash (message : List UInt8) : State :=
  let padded := pad message
  (List.range (padded.length / 64)).foldl
    (fun state index => compress state ((padded.drop (64 * index)).take 64)) initial

def hexDigits : List Char := "0123456789abcdef".toList

def hexWord (word : UInt32) : List Char :=
  (List.range 8).map fun index => hexDigits.getD (word.toNat / 16 ^ (7 - index) % 16) '0'

/-- `sha256(message).hexdigest()` -/
def hexDigest (message : List UInt8) : List Char := (hash message).words.flatMap hexWord

/-- The text of a hash: 64 lower-case digits. -/
def IsDigest (text : List Char) : Prop := text.length = 64 ∧ ∀ char ∈ text, char ∈ hexDigits

instance (text : List Char) : Decidable (IsDigest text) :=
  @instDecidableAnd _ _ (instDecidableEqNat _ _) (List.decidableBAll (· ∈ hexDigits) text)

theorem hexDigest_isDigest (message : List UInt8) : IsDigest (hexDigest message) := by
  constructor
  · simp [hexDigest, hexWord, State.words]
  · intro char member
    obtain ⟨word, _, inWord⟩ := List.mem_flatMap.mp member
    obtain ⟨index, _, rfl⟩ := List.mem_map.mp inWord
    have small : word.toNat / 16 ^ (7 - index) % 16 < 16 := Nat.mod_lt _ (by decide)
    generalize word.toNat / 16 ^ (7 - index) % 16 = digit at small
    have all : ∀ digit : Fin 16, hexDigits.getD digit.val '0' ∈ hexDigits := by decide
    exact all ⟨digit, small⟩

example : String.ofList (hexDigest [0x61, 0x62, 0x63]) =
    "ba7816bf8f01cfea414140de5dae2223b00361a396177a9cb410ff61f20015ad" := by
  decide +kernel

attribute [irreducible] hexDigest

end Sha256
