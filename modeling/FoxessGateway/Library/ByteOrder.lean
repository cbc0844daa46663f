import Mathlib.Algebra.GroupWithZero.Nat
import Mathlib.Data.List.Induction
import Mathlib.Tactic.Common

/-! # Numbers as byte strings

Fixed-width big-endian encodings; the little-endian ones are their reverses. -/

namespace ByteOrder

/-- The number a big-endian byte string stands for. -/
def fromBig (bytes : List UInt8) : Nat :=
  bytes.foldl (fun number byte => number * 256 + byte.toNat) 0

/-- The `width` low bytes of a number, most significant first. -/
def toBig : Nat → Nat → List UInt8
  | 0, _ => []
  | width + 1, number => toBig width (number / 256) ++ [UInt8.ofNat (number % 256)]

@[simp] theorem fromBig_nil : fromBig [] = 0 := rfl

theorem fromBig_concat (bytes : List UInt8) (byte : UInt8) :
    fromBig (bytes ++ [byte]) = fromBig bytes * 256 + byte.toNat := by
  simp [fromBig]

@[simp] theorem toBig_length (width number : Nat) : (toBig width number).length = width := by
  induction width generalizing number with
  | zero => rfl
  | succ width inductionHypothesis => simp [toBig, inductionHypothesis]

theorem fromBig_toBig {width number : Nat} (fits : number < 256 ^ width) :
    fromBig (toBig width number) = number := by
  induction width generalizing number with
  | zero =>
    simp only [Nat.pow_zero] at fits
    simp only [toBig, fromBig_nil]
    omega
  | succ width inductionHypothesis =>
    have smaller : number / 256 < 256 ^ width := by
      rw [Nat.pow_succ] at fits
      exact Nat.div_lt_of_lt_mul (by omega)
    have low : (UInt8.ofNat (number % 256)).toNat = number % 256 := by
      rw [UInt8.toNat_ofNat']
      omega
    rw [toBig, fromBig_concat, inductionHypothesis smaller, low]
    omega

/-- The bytes of a number in its own width are the bytes it was read from. -/
theorem toBig_fromBig (bytes : List UInt8) : toBig bytes.length (fromBig bytes) = bytes := by
  induction bytes using List.reverseRecOn with
  | nil => rfl
  | append_singleton bytes byte inductionHypothesis =>
    have small := byte.toNat_lt
    have high : (fromBig bytes * 256 + byte.toNat) / 256 = fromBig bytes := by omega
    have low : (fromBig bytes * 256 + byte.toNat) % 256 = byte.toNat := by omega
    rw [List.length_append, List.length_singleton, toBig, fromBig_concat, high, low,
      inductionHypothesis, UInt8.ofNat_toNat]

end ByteOrder
