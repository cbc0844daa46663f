import FoxessGateway.Protocol.Telemetry
import Mathlib.Data.Finset.Sort

/-! # The fault code of a telemetry payload

What the fault words of a payload stand for, as the documentation of the decoder has it, and that
`fault_code_for` computes it. -/

namespace FoxessGateway.Protocol

open ByteOrder

/-! ## The code -/

/-- The offsets of the fault words, that of the state first and then the FIFO, the oldest first. -/
def faultOffsets : List Nat := [98, 100, 102, 104, 106]

/-- The newest word of the FIFO that is not zero. -/
def newestFaultWord (payload : Bytes) : Option Nat :=
  ([106, 104, 102, 100].map (u16 payload)).find? (· ≠ 0)

/-- The codes of the bits set in a word, in ascending order. -/
def bitCodes (word : Nat) : List Nat :=
  (((Finset.range 16).filter fun bit => word.testBit bit).image fun bit => 4160 - bit).sort

/-- The code of a word of the FIFO: raw, where a bit is set that no fault is known for. -/
def wordCode (word : Nat) : Text :=
  if word.testBit 14 = false ∧ word.testBit 15 = false then
    [','].intercalate ((bitCodes word).map decimal)
  else rawPrefix ++ hex4 word

/-- The fault code of telemetry, empty where the model has no fault words or they are all zero. -/
def telemetryFaultCode (model : Text) (payload : Bytes) : Text :=
  if supportsAcFaultHistory model = false ∨ ∀ offset ∈ faultOffsets, u16 payload offset = 0 then []
  else
    match newestFaultWord payload with
    | some word => wordCode word
    | none => rawPrefix ++ "offset98=".toList ++ hex4 (u16 payload 98)

/-! ## Bits -/

theorem fromBig_lt (bytes : Bytes) : fromBig bytes < 256 ^ bytes.length := by
  induction bytes using List.reverseRecOn with
  | nil => exact Nat.one_pos
  | append_singleton bytes byte inductionHypothesis =>
    have small := byte.toNat_lt
    rw [fromBig_concat, List.length_append, List.length_singleton, Nat.pow_succ]
    omega

theorem u16_lt (payload : Bytes) (offset : Nat) : u16 payload offset < 2 ^ 16 := by
  have bound := fromBig_lt (slice payload offset (offset + 2))
  have width : (slice payload offset (offset + 2)).length ≤ 2 := by
    rw [slice, List.length_drop, List.length_take]
    omega
  exact Nat.lt_of_lt_of_le bound (Nat.pow_le_pow_right (by decide) width)

/-- The two bits without a code are those above the mask. -/
theorem highBits_clear_iff {word : Nat} (small : word < 2 ^ 16) :
    (word.testBit 14 = false ∧ word.testBit 15 = false) ↔ word &&& acFaultMask = word := by
  have mask : word &&& acFaultMask = word % 2 ^ 14 := Nat.and_two_pow_sub_one_eq_mod word 14
  rw [mask, Nat.testBit_eq_decide_div_mod_eq, Nat.testBit_eq_decide_div_mod_eq,
    decide_eq_false_iff_not, decide_eq_false_iff_not]
  omega

/-- The codes come in ascending order. -/
theorem acFaultCodes_ascending (word : Nat) : (acFaultCodes word).Pairwise (· < ·) := by
  rw [acFaultCodes, List.pairwise_map]
  have descending : (List.range acFaultBits).reverse.Pairwise fun bit later =>
      4160 - bit < 4160 - later := by decide
  exact descending.filter _

theorem acFaultCodes_eq_bitCodes {word : Nat} (small : word < 2 ^ 14) :
    acFaultCodes word = bitCodes word := by
  have ascending := acFaultCodes_ascending word
  have nodup : (acFaultCodes word).Nodup := ascending.imp Nat.ne_of_lt
  have same : (acFaultCodes word).toFinset =
      ((Finset.range 16).filter fun bit => word.testBit bit).image fun bit => 4160 - bit := by
    ext code
    simp only [acFaultCodes, List.mem_toFinset, List.mem_map, List.mem_filter, List.mem_reverse,
      List.mem_range, Finset.mem_image, Finset.mem_filter, Finset.mem_range]
    constructor
    · rintro ⟨bit, ⟨low, isSet⟩, rfl⟩
      exact ⟨bit, ⟨Nat.lt_of_lt_of_le low (by decide), isSet⟩, rfl⟩
    · rintro ⟨bit, ⟨_, isSet⟩, rfl⟩
      refine ⟨bit, ⟨?_, isSet⟩, rfl⟩
      -- a bit that is set lies below the bound of the word
      have reached := Nat.ge_two_pow_of_testBit isSet
      by_contra high
      have larger : 2 ^ 14 ≤ 2 ^ bit := Nat.pow_le_pow_right (by decide) (Nat.le_of_not_lt high)
      omega
  rw [bitCodes, ← same]
  exact ((List.toFinset_sort (· ≤ ·) nodup).mpr (ascending.imp Nat.le_of_lt)).symm

/-! ## The decoder computes the code -/

theorem newestFaultWord_mem {payload : Bytes} {word : Nat}
    (newest : newestFaultWord payload = some word) : word ≠ 0 ∧ word < 2 ^ 16 := by
  have nonzero := List.find?_some newest
  obtain ⟨offset, _, rfl⟩ := List.mem_map.mp (List.mem_of_find?_eq_some newest)
  exact ⟨of_decide_eq_true nonzero, u16_lt payload offset⟩

/-- **The decoder agrees with the documentation** on every payload with a fault word. -/
theorem faultCodeFor_eq {model : Text} {payload : Bytes}
    (known : supportsAcFaultHistory model = true)
    (active : ∃ offset ∈ faultOffsets, u16 payload offset ≠ 0) :
    faultCodeFor [u16 payload 100, u16 payload 102, u16 payload 104, u16 payload 106]
      (u16 payload 98) = telemetryFaultCode model payload := by
  have reversed : [u16 payload 100, u16 payload 102, u16 payload 104, u16 payload 106].reverse =
      [106, 104, 102, 100].map (u16 payload) := rfl
  have present : ¬ (supportsAcFaultHistory model = false ∨
      ∀ offset ∈ faultOffsets, u16 payload offset = 0) := by
    obtain ⟨offset, member, nonzero⟩ := active
    rintro (unknown | zero)
    · exact absurd (known.symm.trans unknown) (by decide)
    · exact nonzero (zero offset member)
  have found : ([106, 104, 102, 100].map (u16 payload)).find? (· ≠ 0) = newestFaultWord payload :=
    rfl
  rw [telemetryFaultCode, if_neg present, faultCodeFor, reversed, found]
  cases newest : newestFaultWord payload with
  | none =>
    -- the FIFO is empty, so the word at offset 98 is the one that is set
    have fifo : ∀ offset ∈ [106, 104, 102, 100], u16 payload offset = 0 := by
      intro offset member
      have none := List.find?_eq_none.mp newest (u16 payload offset) (List.mem_map_of_mem member)
      simpa using none
    have listed : ∀ offset ∈ [100, 102, 104, 106], offset ∈ [106, 104, 102, 100] := by decide
    have only98 : u16 payload 98 ≠ 0 := by
      obtain ⟨offset, member, nonzero⟩ := active
      rcases List.mem_cons.mp member with rfl | later
      · exact nonzero
      · exact absurd (fifo offset (listed offset later)) nonzero
    exact if_pos only98
  | some word =>
    obtain ⟨_, small⟩ := newestFaultWord_mem newest
    dsimp only
    rw [wordCode]
    by_cases clear : word.testBit 14 = false ∧ word.testBit 15 = false
    · have inMask := (highBits_clear_iff small).mp clear
      have below : word < 2 ^ 14 := by
        rw [← inMask]
        exact Nat.and_lt_two_pow word (by decide)
      rw [if_pos clear, if_neg (not_not.mpr inMask), acFaultCodes_eq_bitCodes below]
    · rw [if_neg clear, if_pos fun inMask => clear ((highBits_clear_iff small).mpr inMask)]

theorem wordCode_ne_nil {word : Nat} (nonzero : word ≠ 0) (small : word < 2 ^ 16) :
    wordCode word ≠ [] := by
  rw [wordCode]
  split
  · rename_i clear
    have inMask := (highBits_clear_iff small).mp clear
    have below : word < 2 ^ 14 := by
      rw [← inMask]
      exact Nat.and_lt_two_pow word (by decide)
    -- some bit is set, so there is a first code
    obtain ⟨bit, isSet⟩ := Nat.exists_testBit_of_ne_zero nonzero
    have code : 4160 - bit ∈ bitCodes word := by
      rw [bitCodes, Finset.mem_sort, Finset.mem_image]
      refine ⟨bit, Finset.mem_filter.mpr ⟨Finset.mem_range.mpr ?_, isSet⟩, rfl⟩
      have reached := Nat.ge_two_pow_of_testBit isSet
      by_contra high
      have larger : 2 ^ 16 ≤ 2 ^ bit := Nat.pow_le_pow_right (by decide) (Nat.le_of_not_lt high)
      omega
    cases codes : bitCodes word with
    | nil =>
      rw [codes] at code
      cases code
    | cons first later =>
      have digits : decimal first ≠ [] := Nat.toDigits_ne_nil
      cases later with
      | nil => simpa using digits
      | cons second later =>
        rw [List.map_cons, List.map_cons, List.intercalate_cons_cons]
        simp [digits]
  · exact List.cons_ne_nil _ _

/-- A payload has a code exactly where the model has fault words and one of them is set. -/
theorem telemetryFaultCode_ne_nil_iff {model : Text} {payload : Bytes} :
    telemetryFaultCode model payload ≠ [] ↔
      supportsAcFaultHistory model = true ∧ ∃ offset ∈ faultOffsets, u16 payload offset ≠ 0 := by
  rw [telemetryFaultCode]
  split
  · rename_i absent
    refine iff_of_false (fun nonempty => nonempty rfl) ?_
    rintro ⟨known, offset, member, nonzero⟩
    rcases absent with unknown | zero
    · exact absurd (known.symm.trans unknown) (by decide)
    · exact nonzero (zero offset member)
  · rename_i present
    rw [not_or, not_forall] at present
    obtain ⟨known, offset, here⟩ := present
    rw [Classical.not_imp] at here
    refine iff_of_true ?_ ⟨by simpa using known, offset, here⟩
    cases newest : newestFaultWord payload with
    | none => exact List.cons_ne_nil _ _
    | some word =>
      obtain ⟨nonzero, small⟩ := newestFaultWord_mem newest
      exact wordCode_ne_nil nonzero small

end FoxessGateway.Protocol
