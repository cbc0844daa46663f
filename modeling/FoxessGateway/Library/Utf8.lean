import Mathlib.Data.List.Flatten
import Mathlib.Tactic.Common

/-! # UTF-8 with replacement

A decoder of byte strings that never fails: bytes that cannot begin or go on a character become
the replacement character, one for each longest beginning of a character that is broken off.  What
was encoded is decoded again. -/

namespace Utf8

def encode (text : List Char) : List UInt8 := text.flatMap String.utf8EncodeChar

/-- A character that has begun: its code so far, the bytes it still needs, and the range of the
next one. -/
structure Pending where
  code : Nat
  owed : Nat
  low : Nat
  high : Nat
  deriving DecidableEq, Repr

/-- What the first byte of a character may be. -/
inductive Lead where
  | char (char : Char)
  | pending (pending : Pending)
  | invalid
  deriving DecidableEq, Repr

/-- The ranges of the second byte leave out overlong forms, surrogates and what is beyond the last
plane. -/
def lead (byte : UInt8) : Lead :=
  let code := byte.toNat
  if code < 0x80 then .char (Char.ofNat code)
  else if 0xC2 ≤ code ∧ code ≤ 0xDF then .pending ⟨code - 0xC0, 1, 0x80, 0xBF⟩
  else if 0xE0 ≤ code ∧ code ≤ 0xEF then
    .pending ⟨code - 0xE0, 2, if code = 0xE0 then 0xA0 else 0x80,
      if code = 0xED then 0x9F else 0xBF⟩
  else if 0xF0 ≤ code ∧ code ≤ 0xF4 then
    .pending ⟨code - 0xF0, 3, if code = 0xF0 then 0x90 else 0x80,
      if code = 0xF4 then 0x8F else 0xBF⟩
  else .invalid

def replacement : Char := Char.ofNat 0xFFFD

/-- Decode from between two characters, or from inside one. -/
def decodeFrom : Option Pending → List UInt8 → List Char
  | none, [] => []
  | some _, [] => [replacement]
  | none, byte :: bytes =>
    match lead byte with
    | .char char => char :: decodeFrom none bytes
    | .pending pending => decodeFrom (some pending) bytes
    | .invalid => replacement :: decodeFrom none bytes
  | some pending, byte :: bytes =>
    if pending.low ≤ byte.toNat ∧ byte.toNat ≤ pending.high then
      let code := pending.code * 64 + (byte.toNat - 0x80)
      if pending.owed = 1 then Char.ofNat code :: decodeFrom none bytes
      else decodeFrom (some ⟨code, pending.owed - 1, 0x80, 0xBF⟩) bytes
    else
      -- the character is broken off, and the byte may begin another
      replacement :: match lead byte with
        | .char char => char :: decodeFrom none bytes
        | .pending pending => decodeFrom (some pending) bytes
        | .invalid => replacement :: decodeFrom none bytes

def decode (bytes : List UInt8) : List Char := decodeFrom none bytes

/-! ## One character -/

theorem toNat_ofNat_small {code : Nat} (small : code < 256) : (UInt8.ofNat code).toNat = code := by
  rw [UInt8.toNat_ofNat']
  omega

theorem lead_one {code : Nat} (small : code < 0x80) :
    lead (UInt8.ofNat code) = .char (Char.ofNat code) := by
  rw [lead, toNat_ofNat_small (by omega), if_pos small]

theorem lead_two {high : Nat} (range : 2 ≤ high ∧ high < 0x20) :
    lead (UInt8.ofNat (high + 0xC0)) = .pending ⟨high, 1, 0x80, 0xBF⟩ := by
  rw [lead, toNat_ofNat_small (by omega), if_neg (by omega), if_pos (by omega),
    Nat.add_sub_cancel]

theorem lead_three {high : Nat} (range : high < 0x10) :
    lead (UInt8.ofNat (high + 0xE0)) = .pending ⟨high, 2, if high = 0 then 0xA0 else 0x80,
      if high = 13 then 0x9F else 0xBF⟩ := by
  have isE0 : high + 0xE0 = 0xE0 ↔ high = 0 := by omega
  have isED : high + 0xE0 = 0xED ↔ high = 13 := by omega
  rw [lead, toNat_ofNat_small (by omega), if_neg (by omega), if_neg (by omega),
    if_pos (by omega), Nat.add_sub_cancel]
  simp only [isE0, isED]

theorem lead_four {high : Nat} (range : high < 5) :
    lead (UInt8.ofNat (high + 0xF0)) = .pending ⟨high, 3, if high = 0 then 0x90 else 0x80,
      if high = 4 then 0x8F else 0xBF⟩ := by
  have isF0 : high + 0xF0 = 0xF0 ↔ high = 0 := by omega
  have isF4 : high + 0xF0 = 0xF4 ↔ high = 4 := by omega
  rw [lead, toNat_ofNat_small (by omega), if_neg (by omega), if_neg (by omega),
    if_neg (by omega), if_pos (by omega), Nat.add_sub_cancel]
  simp only [isF0, isF4]

/-- A byte that goes on a character, and does not end it. -/
theorem decodeFrom_more {code owed low high part : Nat} (inside : low ≤ part + 0x80)
    (below : part + 0x80 ≤ high) (fits : part < 0x40) (bytes : List UInt8) :
    decodeFrom (some ⟨code, owed + 2, low, high⟩) (UInt8.ofNat (part + 0x80) :: bytes) =
      decodeFrom (some ⟨code * 64 + part, owed + 1, 0x80, 0xBF⟩) bytes := by
  rw [decodeFrom, toNat_ofNat_small (by omega), if_pos ⟨inside, below⟩, Nat.add_sub_cancel]
  exact if_neg (show owed + 2 ≠ 1 by omega)

/-- The last byte of a character. -/
theorem decodeFrom_last {code low high part : Nat} (inside : low ≤ part + 0x80)
    (below : part + 0x80 ≤ high) (fits : part < 0x40) (bytes : List UInt8) :
    decodeFrom (some ⟨code, 1, low, high⟩) (UInt8.ofNat (part + 0x80) :: bytes) =
      Char.ofNat (code * 64 + part) :: decodeFrom none bytes := by
  rw [decodeFrom, toNat_ofNat_small (by omega), if_pos ⟨inside, below⟩, Nat.add_sub_cancel]
  exact if_pos rfl

/-- A character is decoded from its own bytes. -/
theorem decodeFrom_utf8EncodeChar (char : Char) (bytes : List UInt8) :
    decodeFrom none (String.utf8EncodeChar char ++ bytes) = char :: decodeFrom none bytes := by
  have scalar : char.val.toNat < 0xD800 ∨ 0xDFFF < char.val.toNat ∧ char.val.toNat < 0x110000 :=
    char.valid
  have isChar : ∀ {code : Nat}, code = char.val.toNat → Char.ofNat code = char := by
    rintro code rfl
    exact Char.ofNat_toNat char
  unfold String.utf8EncodeChar
  dsimp only
  generalize char.val.toNat = code at scalar isChar ⊢
  by_cases one : code ≤ 0x7F
  · rw [if_pos one, List.singleton_append, decodeFrom, lead_one (by omega), isChar rfl]
  rw [if_neg one]
  by_cases two : code ≤ 0x7FF
  · rw [if_pos two, List.cons_append, List.singleton_append, decodeFrom, lead_two (by omega)]
    dsimp only
    rw [decodeFrom_last (by omega) (by omega) (by omega), isChar (by omega)]
  rw [if_neg two]
  by_cases three : code ≤ 0xFFFF
  · rw [if_pos three, List.cons_append, List.cons_append, List.singleton_append, decodeFrom,
      lead_three (by omega)]
    dsimp only
    rw [decodeFrom_more (by split <;> omega) (by split <;> omega) (by omega),
      decodeFrom_last (by omega) (by omega) (by omega), isChar (by omega)]
  · rw [if_neg three, List.cons_append, List.cons_append, List.cons_append, List.singleton_append,
      decodeFrom, lead_four (by omega)]
    dsimp only
    rw [decodeFrom_more (by split <;> omega) (by split <;> omega) (by omega),
      decodeFrom_more (by omega) (by omega) (by omega),
      decodeFrom_last (by omega) (by omega) (by omega), isChar (by omega)]

/-! ## Texts -/

theorem decode_encode (text : List Char) : decode (encode text) = text := by
  induction text with
  | nil => rfl
  | cons char text inductionHypothesis =>
    rw [encode, List.flatMap_cons, decode, decodeFrom_utf8EncodeChar]
    exact congrArg _ inductionHypothesis

/-! ## Without replacement -/

/-- A decoder that refuses every byte string that `encode` does not give. -/
def decodeStrict (bytes : List UInt8) : Option (List Char) :=
  if encode (decode bytes) = bytes then some (decode bytes) else none

theorem decodeStrict_eq_some {bytes : List UInt8} {text : List Char} :
    decodeStrict bytes = some text ↔ encode text = bytes := by
  rw [decodeStrict, Option.ite_none_right_eq_some, Option.some.injEq]
  constructor
  · rintro ⟨encoded, rfl⟩
    exact encoded
  · rintro rfl
    rw [decode_encode]
    exact ⟨rfl, rfl⟩

theorem decodeStrict_encode (text : List Char) : decodeStrict (encode text) = some text :=
  decodeStrict_eq_some.mpr rfl

/-- An ASCII character is one byte. -/
theorem encode_ascii {text : List Char} (ascii : ∀ char ∈ text, char.toNat < 128) :
    encode text = text.map fun char => UInt8.ofNat char.toNat := by
  induction text with
  | nil => rfl
  | cons char text inductionHypothesis =>
    obtain ⟨first, later⟩ := List.forall_mem_cons.mp ascii
    have single : String.utf8EncodeChar char = [UInt8.ofNat char.toNat] := by
      rw [String.utf8EncodeChar]
      exact if_pos (show char.val.toNat ≤ 0x7F from Nat.le_of_lt_succ first)
    rw [encode, List.flatMap_cons, single, ← encode, inductionHypothesis later]
    rfl

end Utf8
