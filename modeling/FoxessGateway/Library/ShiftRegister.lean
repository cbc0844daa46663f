import Mathlib.Data.Nat.Bitwise
import Mathlib.Data.Nat.Digits.Defs
import Mathlib.Data.Nat.Digits.Lemmas
import Mathlib.Logic.Function.Iterate

/-! # Linear feedback shift registers

A register that is shifted towards its low end and fed symbols of several bits.  The shift is linear
in exclusive or and loses nothing, so that a burst of symbols no wider than the register decides
what the register holds after it (`burst_ne`), and the register is empty after a symbol string
exactly where the string is what the register held (`feed_eq_zero_iff`). -/

namespace ShiftRegister

/-- A register of `width` bits, with the bits that the one shifted out feeds back. -/
structure Register where
  width : Nat
  polynomial : Nat
  fits : polynomial < 2 ^ width
  /-- The bit shifted out comes in at the high end. -/
  reversible : 2 ^ width ≤ 2 * polynomial

namespace Register

variable (register : Register)

def shift (value : Nat) : Nat :=
  if value &&& 1 = 1 then (value >>> 1) ^^^ register.polynomial else value >>> 1

/-- A symbol of so many bits goes in, its low bit first. -/
def feed (symbolWidth value symbol : Nat) : Nat := register.shift^[symbolWidth] (value ^^^ symbol)

/-! ## The shift -/

theorem shift_lt {value : Nat} (small : value < 2 ^ register.width) :
    register.shift value < 2 ^ register.width := by
  have half : value >>> 1 < 2 ^ register.width := by
    rw [Nat.shiftRight_eq_div_pow]
    omega
  rw [shift]
  split
  · exact Nat.xor_lt_two_pow half register.fits
  · exact half

theorem shift_iterate_lt {value : Nat} (small : value < 2 ^ register.width) (count : Nat) :
    register.shift^[count] value < 2 ^ register.width :=
  Function.Iterate.rec (· < 2 ^ register.width) small (fun _ => register.shift_lt) count

theorem xor_cancel (first second common : Nat) :
    (first ^^^ common) ^^^ (second ^^^ common) = first ^^^ second := by
  rw [Nat.xor_comm second, Nat.xor_assoc, ← Nat.xor_assoc common, Nat.xor_self, Nat.zero_xor]

/-- The shift is linear. -/
theorem shift_xor (first second : Nat) :
    register.shift (first ^^^ second) = register.shift first ^^^ register.shift second := by
  have low : (first ^^^ second) % 2 = (first + second) % 2 := Nat.xor_mod_two_eq
  simp only [shift, Nat.and_one_is_mod, Nat.shiftRight_xor_distrib]
  rcases Nat.mod_two_eq_zero_or_one first with firstEven | firstOdd
  · rcases Nat.mod_two_eq_zero_or_one second with secondEven | secondOdd
    · rw [if_neg (by omega), if_neg (by omega), if_neg (by omega)]
    · rw [if_pos (by omega), if_neg (by omega), if_pos secondOdd, Nat.xor_assoc]
  · rcases Nat.mod_two_eq_zero_or_one second with secondEven | secondOdd
    · rw [if_pos (by omega), if_pos firstOdd, if_neg (by omega), Nat.xor_assoc, Nat.xor_assoc,
        Nat.xor_comm register.polynomial]
    · rw [if_neg (by omega), if_pos firstOdd, if_pos secondOdd, xor_cancel]

theorem shift_iterate_xor (count first second : Nat) :
    register.shift^[count] (first ^^^ second) =
      register.shift^[count] first ^^^ register.shift^[count] second := by
  induction count generalizing first second with
  | zero => rfl
  | succ count inductionHypothesis =>
    simp only [Function.iterate_succ_apply]
    rw [shift_xor, inductionHypothesis]

/-- What stands above the bits that are shifted out moves down. -/
theorem shift_iterate_shiftLeft (count value : Nat) :
    register.shift^[count] (value <<< count) = value := by
  induction count with
  | zero => rfl
  | succ count inductionHypothesis =>
    have even : value <<< (count + 1) = 2 * (value <<< count) := by
      rw [Nat.shiftLeft_succ]
    have down : register.shift (value <<< (count + 1)) = value <<< count := by
      rw [even, shift, Nat.and_one_is_mod, if_neg (by omega), Nat.shiftRight_one]
      omega
    rw [Function.iterate_succ_apply, down, inductionHypothesis]

/-- Nothing but zero is shifted to zero: the bit fed back stays at the high end. -/
theorem shift_eq_zero {value : Nat} (small : value < 2 ^ register.width)
    (zero : register.shift value = 0) : value = 0 := by
  have reversible := register.reversible
  rw [shift, Nat.and_one_is_mod, Nat.shiftRight_one] at zero
  split at zero
  · rw [Nat.xor_eq_zero_iff] at zero
    omega
  · omega

theorem shift_injective {first second : Nat} (firstSmall : first < 2 ^ register.width)
    (secondSmall : second < 2 ^ register.width)
    (same : register.shift first = register.shift second) : first = second := by
  rw [← Nat.xor_eq_zero_iff]
  apply register.shift_eq_zero (Nat.xor_lt_two_pow firstSmall secondSmall)
  rw [shift_xor, same, Nat.xor_self]

theorem shift_iterate_injective {first second : Nat} (firstSmall : first < 2 ^ register.width)
    (secondSmall : second < 2 ^ register.width) {count : Nat}
    (same : register.shift^[count] first = register.shift^[count] second) : first = second := by
  induction count with
  | zero => exact same
  | succ count inductionHypothesis =>
    rw [Function.iterate_succ_apply', Function.iterate_succ_apply'] at same
    exact inductionHypothesis (register.shift_injective
      (register.shift_iterate_lt firstSmall count) (register.shift_iterate_lt secondSmall count)
      same)

/-! ## Symbols -/

variable {symbolWidth : Nat}

theorem add_eq_xor {low : Nat} (small : low < 2 ^ symbolWidth) (high : Nat) :
    low + 2 ^ symbolWidth * high = low ^^^ (high <<< symbolWidth) := by
  apply Nat.eq_of_testBit_eq
  intro place
  rw [Nat.add_comm, Nat.testBit_two_pow_mul_add _ small, Nat.testBit_xor, Nat.testBit_shiftLeft]
  by_cases below : place < symbolWidth
  · simp [below, Nat.not_le.mpr below]
  · have above : low < 2 ^ place :=
      Nat.lt_of_lt_of_le small (Nat.pow_le_pow_right (by decide) (by omega))
    simp [below, Nat.not_lt.mp below, Nat.testBit_lt_two_pow above]

/-- Symbols one after the other are one wide symbol. -/
theorem feed_symbols {symbols : List Nat} (narrow : ∀ symbol ∈ symbols, symbol < 2 ^ symbolWidth)
    (value : Nat) :
    symbols.foldl (register.feed symbolWidth) value =
      register.shift^[symbolWidth * symbols.length]
        (value ^^^ Nat.ofDigits (2 ^ symbolWidth) symbols) := by
  induction symbols generalizing value with
  | nil => simp [Nat.ofDigits_nil]
  | cons symbol symbols inductionHypothesis =>
    have isSymbol := narrow symbol List.mem_cons_self
    have later := inductionHypothesis fun other member =>
      narrow other (List.mem_cons_of_mem _ member)
    -- the symbols to come are shifted down as far as this one is shifted out
    have moved : register.feed symbolWidth value symbol ^^^
        Nat.ofDigits (2 ^ symbolWidth) symbols = register.shift^[symbolWidth]
          (value ^^^ Nat.ofDigits (2 ^ symbolWidth) (symbol :: symbols)) := by
      rw [Nat.ofDigits_cons, add_eq_xor isSymbol, ← Nat.xor_assoc, shift_iterate_xor,
        shift_iterate_shiftLeft, feed]
    rw [List.foldl_cons, later, moved, ← Function.iterate_add_apply, List.length_cons,
      Nat.mul_succ]

theorem feed_lt (symbolFits : symbolWidth ≤ register.width) {symbols : List Nat}
    (narrow : ∀ symbol ∈ symbols, symbol < 2 ^ symbolWidth) {value : Nat}
    (small : value < 2 ^ register.width) :
    symbols.foldl (register.feed symbolWidth) value < 2 ^ register.width := by
  induction symbols generalizing value with
  | nil => exact small
  | cons symbol symbols inductionHypothesis =>
    have isSymbol : symbol < 2 ^ register.width := Nat.lt_of_lt_of_le
      (narrow symbol List.mem_cons_self) (Nat.pow_le_pow_right (by decide) symbolFits)
    rw [List.foldl_cons]
    apply inductionHypothesis fun other member => narrow other (List.mem_cons_of_mem _ member)
    exact register.shift_iterate_lt (Nat.xor_lt_two_pow small isSymbol) symbolWidth

/-- A symbol string no wider than the register is a number that the register can hold. -/
theorem ofDigits_lt (positive : 0 < symbolWidth) {symbols : List Nat}
    (narrow : ∀ symbol ∈ symbols, symbol < 2 ^ symbolWidth)
    (short : symbolWidth * symbols.length ≤ register.width) :
    Nat.ofDigits (2 ^ symbolWidth) symbols < 2 ^ register.width := by
  have below := Nat.ofDigits_lt_base_pow_length (Nat.one_lt_two_pow positive.ne') narrow
  rw [← Nat.pow_mul] at below
  exact Nat.lt_of_lt_of_le below (Nat.pow_le_pow_right (by decide) short)

/-- **The residue.**  The register is empty after a symbol string no wider than it exactly where the
string is what it held. -/
theorem feed_eq_zero_iff (positive : 0 < symbolWidth) {symbols : List Nat}
    (narrow : ∀ symbol ∈ symbols, symbol < 2 ^ symbolWidth)
    (short : symbolWidth * symbols.length ≤ register.width) {value : Nat}
    (small : value < 2 ^ register.width) :
    symbols.foldl (register.feed symbolWidth) value = 0 ↔
      Nat.ofDigits (2 ^ symbolWidth) symbols = value := by
  have empty : ∀ count, register.shift^[count] 0 = 0 := by
    intro count
    have shifted := register.shift_iterate_shiftLeft count 0
    rwa [Nat.zero_shiftLeft] at shifted
  rw [feed_symbols register narrow]
  constructor
  · intro zero
    have same := zero.trans (empty (symbolWidth * symbols.length)).symm
    have cancelled := register.shift_iterate_injective (Nat.xor_lt_two_pow small
      (register.ofDigits_lt positive narrow short)) (Nat.two_pow_pos _) same
    exact (Nat.xor_eq_zero_iff.mp cancelled).symm
  · intro same
    rw [same, Nat.xor_self, empty]

/-- Symbols that come later do not make two values one. -/
theorem feed_injective (symbolFits : symbolWidth ≤ register.width) {symbols : List Nat}
    (narrow : ∀ symbol ∈ symbols, symbol < 2 ^ symbolWidth) {first second : Nat}
    (firstSmall : first < 2 ^ register.width) (secondSmall : second < 2 ^ register.width)
    (same : symbols.foldl (register.feed symbolWidth) first =
      symbols.foldl (register.feed symbolWidth) second) : first = second := by
  induction symbols generalizing first second with
  | nil => exact same
  | cons symbol symbols inductionHypothesis =>
    have isSymbol : symbol < 2 ^ register.width := Nat.lt_of_lt_of_le
      (narrow symbol List.mem_cons_self) (Nat.pow_le_pow_right (by decide) symbolFits)
    have firstFed := Nat.xor_lt_two_pow firstSmall isSymbol
    have secondFed := Nat.xor_lt_two_pow secondSmall isSymbol
    have before := inductionHypothesis
      (fun other member => narrow other (List.mem_cons_of_mem _ member))
      (register.shift_iterate_lt firstFed symbolWidth)
      (register.shift_iterate_lt secondFed symbolWidth) same
    have fed := register.shift_iterate_injective firstFed secondFed before
    exact Nat.xor_left_injective fed

/-- **Bursts.**  Two symbol strings that differ in nothing but a burst no wider than the register
leave different values in it. -/
theorem burst_ne (positive : 0 < symbolWidth) (symbolFits : symbolWidth ≤ register.width)
    {front burst altered back : List Nat}
    (narrow : ∀ symbol ∈ front ++ burst ++ back, symbol < 2 ^ symbolWidth)
    (alteredNarrow : ∀ symbol ∈ altered, symbol < 2 ^ symbolWidth)
    (sameLength : altered.length = burst.length)
    (short : symbolWidth * burst.length ≤ register.width) (differs : altered ≠ burst)
    {value : Nat} (small : value < 2 ^ register.width) :
    (front ++ altered ++ back).foldl (register.feed symbolWidth) value ≠
      (front ++ burst ++ back).foldl (register.feed symbolWidth) value := by
  have frontNarrow : ∀ symbol ∈ front, symbol < 2 ^ symbolWidth := fun symbol member =>
    narrow symbol (List.mem_append_left _ (List.mem_append_left _ member))
  have burstNarrow : ∀ symbol ∈ burst, symbol < 2 ^ symbolWidth := fun symbol member =>
    narrow symbol (List.mem_append_left _ (List.mem_append_right _ member))
  have backNarrow : ∀ symbol ∈ back, symbol < 2 ^ symbolWidth := fun symbol member =>
    narrow symbol (List.mem_append_right _ member)
  intro same
  simp only [List.foldl_append] at same
  have held := register.feed_lt symbolFits frontNarrow small
  generalize front.foldl (register.feed symbolWidth) value = before at same held
  -- what comes after the burst is the same, and does not make up for it
  have after := register.feed_injective symbolFits backNarrow
    (register.feed_lt symbolFits alteredNarrow held) (register.feed_lt symbolFits burstNarrow held)
    same
  -- the burst and its alteration are each one wide symbol
  rw [feed_symbols register alteredNarrow, feed_symbols register burstNarrow, sameLength] at after
  have fed := register.shift_iterate_injective
    (Nat.xor_lt_two_pow held (register.ofDigits_lt positive alteredNarrow (sameLength ▸ short)))
    (Nat.xor_lt_two_pow held (register.ofDigits_lt positive burstNarrow short)) after
  have sameNumber := Nat.xor_right_injective fed
  exact differs (Nat.ofDigits_inj_of_len_eq (Nat.one_lt_two_pow positive.ne') sameLength
    alteredNarrow burstNarrow sameNumber)

end Register

end ShiftRegister
