import FoxessGateway.Library.Json.Value
import Mathlib.Algebra.Order.Field.Rat
import Mathlib.Data.Rat.Cast.Order
import Mathlib.Tactic.FieldSimp
import Mathlib.Tactic.Linarith
import Mathlib.Tactic.Positivity
import Mathlib.Tactic.Ring

/-! # Decimal numerals

The number a numeral stands for, fractions rounded to a number of decimals, and the shortest
numerals of such numbers. -/

namespace JsonText

/-! ## What a numeral stands for -/

/-- The digits after a point. -/
def fractionValue : List (Fin 10) → ℚ
  | [] => 0
  | digit :: digits => (digit.val + fractionValue digits) / 10

def Numeral.value (numeral : Numeral) : ℚ :=
  (if numeral.negative then -1 else 1) * (numeral.whole + fractionValue numeral.fraction) *
    (10 : ℚ) ^ (numeral.exponent.getD 0)

theorem fractionValue_concat (digits : List (Fin 10)) (last : Fin 10) :
    fractionValue (digits ++ [last]) =
      fractionValue digits + last.val / 10 ^ (digits.length + 1) := by
  induction digits with
  | nil => simp [fractionValue]
  | cons digit digits inductionHypothesis =>
    rw [List.cons_append, fractionValue, inductionHypothesis, fractionValue, List.length_cons,
      pow_succ (10 : ℚ) (digits.length + 1)]
    field_simp
    ring

theorem fractionValue_zero (digits : List (Fin 10)) :
    fractionValue (digits ++ [0]) = fractionValue digits := by
  rw [fractionValue_concat]
  simp

/-! ## Shortest numerals -/

/-- The last decimals of a number. -/
def decimals : Nat → Nat → List (Fin 10)
  | 0, _ => []
  | places + 1, scaled => decimals places (scaled / 10) ++ [Fin.ofNat 10 scaled]

/-- The digits without the zeros at their end. -/
def trimZeros (digits : List (Fin 10)) : List (Fin 10) :=
  (digits.reverse.dropWhile (· = 0)).reverse

/-- At least one digit stands after the point. -/
def someDigit : List (Fin 10) → List (Fin 10)
  | [] => [0]
  | digit :: digits => digit :: digits

/-- A number with so many decimals, without the zeros at their end. -/
def decimalNumeral (scaled places : Nat) : Numeral where
  negative := false
  whole := scaled / 10 ^ places
  fraction := someDigit (trimZeros (decimals places scaled))
  exponent := none
  isReal := by
    cases trimZeros (decimals places scaled) <;> simp [someDigit]

theorem decimals_length (places scaled : Nat) : (decimals places scaled).length = places := by
  induction places generalizing scaled with
  | zero => rfl
  | succ places inductionHypothesis => simp [decimals, inductionHypothesis]

theorem fractionValue_decimals (places scaled : Nat) :
    fractionValue (decimals places scaled) = (scaled % 10 ^ places : Nat) / 10 ^ places := by
  induction places generalizing scaled with
  | zero => simp [decimals, fractionValue, Nat.mod_one]
  | succ places inductionHypothesis =>
    have parts : scaled % 10 ^ (places + 1) =
        10 * (scaled / 10 % 10 ^ places) + scaled % 10 := by
      rw [pow_succ', Nat.mod_mul]
      omega
    rw [decimals, fractionValue_concat, inductionHypothesis, decimals_length, parts]
    push_cast [Fin.val_ofNat]
    rw [pow_succ]
    field_simp

theorem fractionValue_trimZeros (digits : List (Fin 10)) :
    fractionValue (trimZeros digits) = fractionValue digits := by
  induction digits using List.reverseRecOn with
  | nil => rfl
  | append_singleton digits last inductionHypothesis =>
    rw [trimZeros, List.reverse_append, List.reverse_singleton, List.singleton_append,
      List.dropWhile_cons]
    by_cases isZero : last = 0
    · rw [if_pos (decide_eq_true isZero), isZero, fractionValue_zero]
      exact inductionHypothesis
    · rw [if_neg (by simpa using isZero), List.reverse_cons, List.reverse_reverse]

theorem fractionValue_someDigit (digits : List (Fin 10)) :
    fractionValue (someDigit digits) = fractionValue digits := by
  cases digits with
  | nil => simp [someDigit, fractionValue]
  | cons digit digits => rfl

/-- **The numeral is exact.** -/
theorem value_decimalNumeral (scaled places : Nat) :
    (decimalNumeral scaled places).value = scaled / 10 ^ places := by
  have fraction : fractionValue (decimalNumeral scaled places).fraction =
      (scaled % 10 ^ places : Nat) / 10 ^ places := by
    rw [← fractionValue_decimals]
    exact (fractionValue_someDigit _).trans (fractionValue_trimZeros _)
  have parts : (scaled : ℚ) =
      10 ^ places * (scaled / 10 ^ places : Nat) + (scaled % 10 ^ places : Nat) := by
    exact_mod_cast (Nat.div_add_mod scaled (10 ^ places)).symm
  rw [Numeral.value, fraction]
  simp only [decimalNumeral, Bool.false_eq_true, if_false, Option.getD_none, zpow_zero, one_mul,
    mul_one]
  field_simp
  rw [mul_comm]
  exact parts.symm

/-! ## Rounding -/

/-- A fraction rounded to a whole number; halves go to the even one. -/
def roundHalfEven (numerator denominator : Nat) : Nat :=
  let whole := numerator / denominator
  let rest := 2 * (numerator % denominator)
  if denominator < rest ∨ denominator = rest ∧ whole % 2 = 1 then whole + 1 else whole

theorem roundHalfEven_near (numerator : Nat) {denominator : Nat} (positive : 0 < denominator) :
    |(roundHalfEven numerator denominator : ℚ) - numerator / denominator| ≤ 1 / 2 := by
  have above : (0 : ℚ) < denominator := by exact_mod_cast positive
  have parts : (numerator : ℚ) =
      denominator * (numerator / denominator : Nat) + (numerator % denominator : Nat) := by
    exact_mod_cast (Nat.div_add_mod numerator denominator).symm
  have below : ((numerator % denominator : Nat) : ℚ) < denominator := by
    exact_mod_cast Nat.mod_lt numerator positive
  have atLeast : (0 : ℚ) ≤ (numerator % denominator : Nat) := by positivity
  rw [roundHalfEven]
  generalize numerator / denominator = whole at parts ⊢
  generalize numerator % denominator = rest at parts below atLeast ⊢
  -- only the part below one is rounded, up to one or down to nothing
  have quotient : (numerator : ℚ) / denominator = whole + rest / denominator := by
    rw [parts]
    field_simp
  rw [quotient]
  split
  · rename_i up
    have half : (denominator : ℚ) ≤ 2 * rest := by
      rcases up with more | ⟨same, _⟩
      · exact_mod_cast Nat.le_of_lt more
      · exact_mod_cast Nat.le_of_eq same
    have enough : 1 / 2 ≤ (rest : ℚ) / denominator := by
      rw [le_div_iff₀ above]
      linarith
    have small : (rest : ℚ) / denominator ≤ 1 := (div_le_one above).mpr (le_of_lt below)
    push_cast
    rw [abs_le]
    constructor <;> linarith
  · rename_i down
    have half : 2 * (rest : ℚ) ≤ denominator := by
      rw [not_or] at down
      exact_mod_cast Nat.not_lt.mp down.1
    have little : (rest : ℚ) / denominator ≤ 1 / 2 := by
      rw [div_le_iff₀ above]
      linarith
    have some : (0 : ℚ) ≤ (rest : ℚ) / denominator := div_nonneg atLeast (le_of_lt above)
    rw [abs_le]
    constructor <;> linarith

/-- A fraction rounded to so many decimals, as a numeral. -/
def roundedNumeral (numerator denominator places : Nat) : Numeral :=
  decimalNumeral (roundHalfEven (numerator * 10 ^ places) denominator) places

/-- **Rounding costs half of the last decimal at most.** -/
theorem roundedNumeral_near (numerator : Nat) {denominator : Nat} (places : Nat)
    (positive : 0 < denominator) :
    |(roundedNumeral numerator denominator places).value - numerator / denominator| ≤
      1 / (2 * 10 ^ places) := by
  have near := roundHalfEven_near (numerator * 10 ^ places) positive
  have scale : (0 : ℚ) < 10 ^ places := by positivity
  rw [roundedNumeral, value_decimalNumeral]
  have split : (roundHalfEven (numerator * 10 ^ places) denominator : ℚ) / 10 ^ places -
      numerator / denominator =
        ((roundHalfEven (numerator * 10 ^ places) denominator : ℚ) -
          (numerator * 10 ^ places : Nat) / denominator) / 10 ^ places := by
    push_cast
    field_simp
  rw [split, abs_div, abs_of_pos scale, div_le_iff₀ scale]
  calc _ ≤ (1 : ℚ) / 2 := near
    _ = 1 / (2 * 10 ^ places) * 10 ^ places := by field_simp

example : String.ofList (writeNumeral (roundedNumeral 7393 32 3)) = "231.031" := by decide +kernel

example : String.ofList (writeNumeral (roundedNumeral 6400 128 3)) = "50.0" := by decide +kernel

end JsonText
