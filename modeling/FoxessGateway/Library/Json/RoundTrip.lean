import FoxessGateway.Library.Json.Reader
import Mathlib.Data.List.Nodup

/-! # What was written is read

Every value that keeps the limits of the reader is read from what was written of it, in whatever
layout, and nothing after it is touched. -/

namespace JsonText

/-! ## Texts -/

theorem inFront_nil (read : Except Fault (List Char × List Char)) : inFront [] read = read := by
  cases read with
  | error fault => rfl
  | ok result => rfl

theorem hexDigit_digitChar {digit : Nat} (small : digit < 16) :
    hexDigit (Nat.digitChar digit) = some digit := by
  have all : ∀ digit : Fin 16, hexDigit (Nat.digitChar digit.val) = some digit.val := by decide
  exact all ⟨digit, small⟩

/-- One digit of a code that is not the last. -/
theorem readChars_digit (start : Nat) (high : Option Nat) (value count left : Nat) {digit : Nat}
    (small : digit < 16) (early : count < 3) (rest : List Char) :
    readChars start (.code high value count left) (Nat.digitChar digit :: rest) =
      readChars start (.code high (value * 16 + digit) (count + 1) left) rest := by
  rw [readChars, hexDigit_digitChar small]
  exact if_pos early

theorem readChars_lastDigit (start : Nat) (high : Option Nat) (value left : Nat) {digit : Nat}
    (small : digit < 16) {rest : List Char} (goesOn : rest ≠ []) :
    readChars start (.code high value 3 left) (Nat.digitChar digit :: rest) =
      inFront (endCode high (value * 16 + digit)).1
        (readChars start (.plain (endCode high (value * 16 + digit)).2) rest) := by
  rw [readChars, hexDigit_digitChar small]
  exact (if_neg (Nat.lt_irrefl 3)).trans (if_neg goesOn)

theorem readChars_unicodeEscape (start : Nat) (high : Option Nat) {code : Nat}
    (small : code < 0x10000) {rest : List Char} (goesOn : rest ≠ []) :
    readChars start (.plain high) (unicodeEscape code ++ rest) =
      inFront (endCode high code).1 (readChars start (.plain (endCode high code).2) rest) := by
  have spelled : ((((0 * 16 + code / 0x1000) * 16 + code / 0x100 % 16) * 16 + code / 16 % 16) * 16 +
      code % 16) = code := by omega
  change readChars start (.code high 0 0 (([Nat.digitChar (code / 0x1000),
    Nat.digitChar (code / 0x100 % 16), Nat.digitChar (code / 16 % 16),
    Nat.digitChar (code % 16)] ++ rest).length + 1)) (Nat.digitChar (code / 0x1000) ::
      Nat.digitChar (code / 0x100 % 16) :: Nat.digitChar (code / 16 % 16) ::
        Nat.digitChar (code % 16) :: rest) = _
  rw [readChars_digit _ _ _ _ _ (by omega) (by omega), readChars_digit _ _ _ _ _ (by omega)
    (by omega), readChars_digit _ _ _ _ _ (by omega) (by omega),
    readChars_lastDigit _ _ _ _ (by omega) goesOn, spelled]

theorem endCode_char {char : Char} (small : char.toNat < 0x10000) :
    endCode none char.toNat = ([char], none) := by
  have scalar : char.toNat < 0xD800 ∨ 0xDFFF < char.toNat ∧ char.toNat < 0x110000 := char.valid
  have notLow : isLowSurrogate char.toNat = false := by
    simp only [isLowSurrogate, decide_eq_false_iff_not]
    omega
  have notHigh : isHighSurrogate char.toNat = false := by
    simp only [isHighSurrogate, decide_eq_false_iff_not]
    omega
  unfold endCode
  rw [notLow, notHigh]
  exact congrArg (fun char => ([char], none)) (Char.ofNat_toNat char)

theorem endCode_high {code : Nat} (notLow : isLowSurrogate code = false)
    (isHigh : isHighSurrogate code = true) : endCode none code = ([], some code) := by
  unfold endCode
  rw [notLow]
  exact if_pos isHigh

theorem endCode_low (high : Nat) {code : Nat} (isLow : isLowSurrogate code = true) :
    endCode (some high) code =
      ([Char.ofNat (0x10000 + (high - 0xD800) * 0x400 + (code - 0xDC00))], none) := by
  unfold endCode
  rw [isLow]

/-- The two halves of a character beyond the first plane. -/
theorem endCode_halves {char : Char} (large : 0x10000 ≤ char.toNat) :
    endCode none (0xD800 + (char.toNat - 0x10000) / 0x400) =
      ([], some (0xD800 + (char.toNat - 0x10000) / 0x400)) ∧
    endCode (some (0xD800 + (char.toNat - 0x10000) / 0x400))
      (0xDC00 + (char.toNat - 0x10000) % 0x400) = ([char], none) := by
  have scalar : char.toNat < 0xD800 ∨ 0xDFFF < char.toNat ∧ char.toNat < 0x110000 := char.valid
  have isChar : ∀ {code : Nat}, code = char.toNat → Char.ofNat code = char := by
    rintro code rfl
    exact Char.ofNat_toNat char
  generalize char.toNat = code at scalar large isChar
  constructor
  · apply endCode_high
    · simp only [isLowSurrogate, decide_eq_false_iff_not]
      omega
    · simp only [isHighSurrogate, decide_eq_true_eq]
      omega
  · rw [endCode_low _ (by simp only [isLowSurrogate, decide_eq_true_eq]; omega), isChar (by omega)]

theorem unicodeEscape_append_ne_nil (code : Nat) (rest : List Char) :
    unicodeEscape code ++ rest ≠ [] := nofun

/-- A character is read from what was written of it. -/
theorem readChars_escapeChar (start : Nat) (char : Char) {rest : List Char} (goesOn : rest ≠ []) :
    readChars start (.plain none) (escapeChar char ++ rest) =
      inFront [char] (readChars start (.plain none) rest) := by
  rw [escapeChar]
  split
  · rename_i letter isShort
    obtain ⟨before, after, split, _⟩ := List.lookup_eq_some_iff.mp isShort
    have member : (char, letter) ∈ shortEscapes := by
      rw [split]
      exact List.mem_append_right before List.mem_cons_self
    clear isShort split
    simp only [shortEscapes, List.mem_cons, Prod.mk.injEq, List.not_mem_nil, or_false] at member
    rcases member with ⟨rfl, rfl⟩ | ⟨rfl, rfl⟩ | ⟨rfl, rfl⟩ | ⟨rfl, rfl⟩ | ⟨rfl, rfl⟩ | ⟨rfl, rfl⟩ |
      ⟨rfl, rfl⟩
    all_goals rfl
  · rename_i notShort
    split
    · rename_i printable
      have notQuote : char ≠ '"' := by
        rintro rfl
        cases notShort
      have notBackslash : char ≠ '\\' := by
        rintro rfl
        cases notShort
      have visible : ¬ char.toNat ≤ 0x1F := by
        have above : ' '.toNat ≤ char.toNat := printable.1
        have space : ' '.toNat = 0x20 := rfl
        omega
      rw [List.singleton_append, readChars, if_neg notQuote, if_neg notBackslash, if_neg visible]
      rfl
    split
    · rename_i small
      rw [readChars_unicodeEscape start none small goesOn, endCode_char small]
    · rename_i large
      have scalar : char.toNat < 0xD800 ∨ 0xDFFF < char.toNat ∧ char.toNat < 0x110000 := char.valid
      obtain ⟨first, second⟩ := endCode_halves (Nat.le_of_not_lt large)
      rw [List.append_assoc, readChars_unicodeEscape start none (by omega)
        (unicodeEscape_append_ne_nil _ rest), first, inFront_nil,
        readChars_unicodeEscape start _ (by omega) goesOn, second]

theorem readChars_text (start : Nat) (text rest : List Char) :
    readChars start (.plain none) (text.flatMap escapeChar ++ '"' :: rest) = .ok (text, rest) := by
  induction text with
  | nil => rfl
  | cons char text inductionHypothesis =>
    have goesOn : text.flatMap escapeChar ++ '"' :: rest ≠ [] := by simp
    rw [List.flatMap_cons, List.append_assoc, readChars_escapeChar start char goesOn,
      inductionHypothesis]
    rfl

/-! ## Whole numbers -/

/-- What may follow a number: nothing that goes on with it. -/
def Ends (rest : List Char) : Prop :=
  ∀ char, rest.head? = some char →
    char.isDigit = false ∧ char ≠ '.' ∧ char ≠ 'e' ∧ char ≠ 'E'

theorem ends_cons {char : Char} (rest : List Char)
    (other : char.isDigit = false ∧ char ≠ '.' ∧ char ≠ 'e' ∧ char ≠ 'E') :
    Ends (char :: rest) := by
  rintro _ ⟨⟩
  exact other

theorem readDigits_append {digits rest : List Char}
    (digital : ∀ char ∈ digits, char.isDigit = true)
    (stops : ∀ char, rest.head? = some char → char.isDigit = false) :
    readDigits (digits ++ rest) = (digits, rest) := by
  have nothing : rest.takeWhile Char.isDigit = [] ∧ rest.dropWhile Char.isDigit = rest := by
    cases rest with
    | nil => exact ⟨rfl, rfl⟩
    | cons char rest =>
      have isOther := stops char rfl
      exact ⟨List.takeWhile_cons_of_neg (by simp [isOther]),
        List.dropWhile_cons_of_neg (by simp [isOther])⟩
  rw [readDigits, List.takeWhile_append_of_pos digital, List.dropWhile_append_of_pos digital,
    nothing.1, nothing.2, List.append_nil]

theorem toDigits_isDigit (value : Nat) : ∀ char ∈ Nat.toDigits 10 value, char.isDigit = true :=
  fun _ member => Nat.isDigit_of_mem_toDigits (by decide) (by decide) member

theorem isDigit_digitChar {digit : Nat} (small : digit < 10) :
    (Nat.digitChar digit).isDigit = true := by
  have all : ∀ digit : Fin 10, (Nat.digitChar digit.val).isDigit = true := by decide
  exact all ⟨digit, small⟩

/-- No number but zero begins with a zero. -/
theorem toDigits_first {value : Nat} (positive : 0 < value) :
    ∃ first later, Nat.toDigits 10 value = first :: later ∧ first.isDigit = true ∧
      first ≠ '0' := by
  induction value using Nat.base_induction 10 (by decide) with
  | single digit small =>
    refine ⟨Nat.digitChar digit, [], Nat.toDigits_of_lt_base small, isDigit_digitChar small, ?_⟩
    rw [Ne, Nat.digitChar_eq_zero]
    omega
  | digit front digit small frontPositive inductionHypothesis =>
    obtain ⟨first, later, digits, isDigit, nonzero⟩ := inductionHypothesis frontPositive
    refine ⟨first, later ++ Nat.toDigits 10 digit, ?_, isDigit, nonzero⟩
    rw [← Nat.toDigits_append_toDigits (by decide) frontPositive small, digits, List.cons_append]

theorem readUnsigned_toDigits (limits : Limits) (start : Nat) (negative : Bool) (value : Nat)
    {rest : List Char} (stops : ∀ char, rest.head? = some char → char.isDigit = false) :
    readUnsigned limits start negative (Nat.toDigits 10 value ++ rest) =
      readTail limits negative (Nat.toDigits 10 value) rest := by
  rcases Nat.eq_zero_or_pos value with rfl | positive
  · rfl
  · obtain ⟨first, later, digits, isDigit, nonzero⟩ := toDigits_first positive
    have read := readDigits_append (toDigits_isDigit value) stops
    rw [digits, List.cons_append] at read ⊢
    unfold readUnsigned
    split
    · rename_i isZero
      exact absurd (List.cons.inj isZero).1 nonzero
    · rename_i _ isCons
      obtain ⟨rfl, rfl⟩ := List.cons.inj isCons
      rw [if_pos isDigit, read]
    · rename_i isNil
      cases isNil

theorem readFraction_ends {rest : List Char} (ends : Ends rest) :
    readFraction rest = ([], rest) := by
  unfold readFraction
  split
  · exact absurd rfl (ends '.' rfl).2.1
  · rfl

theorem readExponent_ends {rest : List Char} (ends : Ends rest) :
    readExponent rest = (none, rest) := by
  cases rest with
  | nil => rfl
  | cons char rest =>
    obtain ⟨_, _, notLower, notUpper⟩ := ends char rfl
    exact if_neg (not_or.mpr ⟨notLower, notUpper⟩)

theorem readTail_int (limits : Limits) (negative : Bool) {value : Nat}
    (short : (Nat.toDigits 10 value).length ≤ limits.digits) {rest : List Char}
    (ends : Ends rest) :
    readTail limits negative (Nat.toDigits 10 value) rest =
      .ok (.int (if negative then -(value : Int) else value), rest) := by
  have whole : ¬ ((readFraction rest).1 ≠ [] ∨ (readExponent (readFraction rest).2).1 ≠ none) := by
    rw [readFraction_ends ends, readExponent_ends ends]
    simp
  rw [readTail, dif_neg whole, if_neg (by omega), Nat.ofDigitChars_ten_toDigits]

theorem readNumber_minus (limits : Limits) (text : List Char) :
    readNumber limits ('-' :: text) = readUnsigned limits (text.length + 1) true text := rfl

theorem readNumber_unsigned (limits : Limits) {text : List Char}
    (unsigned : text.head? ≠ some '-') :
    readNumber limits text = readUnsigned limits text.length false text := by
  unfold readNumber
  split
  · exact absurd rfl unsigned
  · rfl

theorem toDigits_head (value : Nat) (rest : List Char) :
    ∃ first later, Nat.toDigits 10 value ++ rest = first :: later ∧ first.isDigit = true := by
  cases digits : Nat.toDigits 10 value with
  | nil => exact absurd digits Nat.toDigits_ne_nil
  | cons first later =>
    exact ⟨first, later ++ rest, rfl, toDigits_isDigit value first (by simp [digits])⟩

theorem readNumber_toDigits (limits : Limits) (value : Nat) {rest : List Char} :
    readNumber limits (Nat.toDigits 10 value ++ rest) =
      readUnsigned limits (Nat.toDigits 10 value ++ rest).length false
        (Nat.toDigits 10 value ++ rest) := by
  obtain ⟨first, later, digits, isDigit⟩ := toDigits_head value rest
  apply readNumber_unsigned
  rw [digits]
  rintro ⟨⟩
  cases isDigit

theorem readNumber_writeInt (limits : Limits) {value : Int}
    (short : (Nat.toDigits 10 value.natAbs).length ≤ limits.digits) {rest : List Char}
    (ends : Ends rest) : readNumber limits (writeInt value ++ rest) = .ok (.int value, rest) := by
  have stops := fun char isHead => (ends char isHead).1
  cases value with
  | ofNat value =>
    rw [writeInt, readNumber_toDigits, readUnsigned_toDigits _ _ _ _ stops]
    exact readTail_int limits false short ends
  | negSucc value =>
    rw [writeInt, List.cons_append, readNumber_minus, readUnsigned_toDigits _ _ _ _ stops]
    exact readTail_int limits true short ends

/-! ## Numerals -/

theorem digitOf_digitChar (digit : Fin 10) : digitOf (Nat.digitChar digit.val) = digit := by
  revert digit
  decide

theorem readFraction_point (rest : List Char) :
    readFraction ('.' :: rest) =
      if (readDigits rest).1 = [] then ([], '.' :: rest)
      else ((readDigits rest).1.map digitOf, (readDigits rest).2) := rfl

/-- The digits after a point. -/
theorem readFraction_digits {fraction : List (Fin 10)} (nonempty : fraction ≠ [])
    {rest : List Char} (stops : ∀ char, rest.head? = some char → char.isDigit = false) :
    readFraction ('.' :: fraction.map (Nat.digitChar ·.val) ++ rest) = (fraction, rest) := by
  have digital : ∀ char ∈ fraction.map (Nat.digitChar ·.val), char.isDigit = true := by
    intro char member
    obtain ⟨digit, _, rfl⟩ := List.mem_map.mp member
    exact isDigit_digitChar digit.isLt
  have read := readDigits_append digital stops
  have digits : (fraction.map (Nat.digitChar ·.val)).map digitOf = fraction := by
    rw [List.map_map]
    exact (List.map_congr_left fun digit _ => digitOf_digitChar digit).trans (List.map_id fraction)
  rw [List.cons_append, readFraction_point, read, if_neg (by simpa using nonempty), digits]

theorem readExponentDigits_eq (text : List Char) (exponent : Int) {rest : List Char}
    (stops : ∀ char, rest.head? = some char → char.isDigit = false) :
    readExponentDigits text (List.replicate (2 - (Nat.toDigits 10 exponent.natAbs).length) '0' ++
      Nat.toDigits 10 exponent.natAbs ++ rest) (decide (exponent < 0)) = (some exponent, rest) := by
  have digital : ∀ char ∈ List.replicate (2 - (Nat.toDigits 10 exponent.natAbs).length) '0' ++
      Nat.toDigits 10 exponent.natAbs, char.isDigit = true := by
    intro char member
    rcases List.mem_append.mp member with isZero | isDigit
    · rw [List.eq_of_mem_replicate isZero]
      rfl
    · exact toDigits_isDigit _ char isDigit
  have value : Nat.ofDigitChars 10 (List.replicate (2 - (Nat.toDigits 10
      exponent.natAbs).length) '0' ++ Nat.toDigits 10 exponent.natAbs) 0 = exponent.natAbs := by
    rw [Nat.ofDigitChars_append, Nat.ofDigitChars_replicate_zero, Nat.mul_zero,
      Nat.ofDigitChars_ten_toDigits]
  rw [readExponentDigits, readDigits_append digital stops]
  dsimp only
  rw [if_neg (by simp), value]
  refine congrArg (fun value => (some value, rest)) ?_
  split
  · rename_i isNegative
    have below := of_decide_eq_true isNegative
    omega
  · rename_i notNegative
    have above : ¬ exponent < 0 := fun below => notNegative (decide_eq_true below)
    omega

theorem readExponent_write (exponent : Option Int) {rest : List Char} (ends : Ends rest) :
    readExponent ((exponent.map writeExponent).getD [] ++ rest) = (exponent, rest) := by
  cases exponent with
  | none => exact readExponent_ends ends
  | some exponent =>
    have read := fun text => readExponentDigits_eq text exponent fun char isHead =>
      (ends char isHead).1
    rw [Option.map_some, Option.getD_some, writeExponent]
    by_cases isNegative : exponent < 0
    · rw [decide_eq_true isNegative] at read
      rw [if_pos isNegative]
      exact read _
    · rw [decide_eq_false isNegative] at read
      rw [if_neg isNegative]
      exact read _

/-- The text after the whole part of a numeral. -/
def Numeral.tail (numeral : Numeral) : List Char :=
  (if numeral.fraction = [] then [] else '.' :: numeral.fraction.map (Nat.digitChar ·.val)) ++
    (numeral.exponent.map writeExponent).getD []

theorem exponent_head (exponent : Option Int) {rest : List Char} (ends : Ends rest) :
    ∀ char, ((exponent.map writeExponent).getD [] ++ rest).head? = some char →
      char.isDigit = false ∧ char ≠ '.' := by
  intro char isHead
  cases exponent with
  | none => exact ⟨(ends char isHead).1, (ends char isHead).2.1⟩
  | some exponent =>
    cases isHead
    exact ⟨rfl, by decide⟩

theorem readTail_numeral (limits : Limits) (numeral : Numeral) {rest : List Char}
    (ends : Ends rest) :
    readTail limits numeral.negative (Nat.toDigits 10 numeral.whole) (numeral.tail ++ rest) =
      .ok (.real numeral, rest) := by
  obtain ⟨negative, whole, fraction, exponent, isReal⟩ := numeral
  have fractionRead : readFraction (Numeral.tail ⟨negative, whole, fraction, exponent, isReal⟩ ++
      rest) = (fraction, (exponent.map writeExponent).getD [] ++ rest) := by
    rw [Numeral.tail, List.append_assoc]
    split
    · rename_i nothing
      obtain rfl : fraction = [] := nothing
      rw [List.nil_append]
      unfold readFraction
      split
      · rename_i isPoint
        exact absurd rfl (exponent_head exponent ends '.' (by rw [isPoint]; rfl)).2
      · rfl
    · rename_i nonempty
      exact readFraction_digits nonempty fun char isHead =>
        (exponent_head exponent ends char isHead).1
  have exponentRead := readExponent_write exponent ends
  unfold readTail
  simp only [fractionRead, exponentRead]
  rw [dif_pos isReal]
  simp only [Nat.ofDigitChars_ten_toDigits]

theorem tail_stops (numeral : Numeral) {rest : List Char} (ends : Ends rest) :
    ∀ char, (numeral.tail ++ rest).head? = some char → char.isDigit = false := by
  intro char isHead
  rw [Numeral.tail, List.append_assoc] at isHead
  split at isHead
  · exact (exponent_head numeral.exponent ends char isHead).1
  · cases isHead
    rfl

theorem readNumber_writeNumeral (limits : Limits) (numeral : Numeral) {rest : List Char}
    (ends : Ends rest) :
    readNumber limits (writeNumeral numeral ++ rest) = .ok (.real numeral, rest) := by
  have written : writeNumeral numeral ++ rest = (if numeral.negative then ['-'] else []) ++
      (Nat.toDigits 10 numeral.whole ++ (numeral.tail ++ rest)) := by
    simp only [writeNumeral, Numeral.tail, List.append_assoc]
  have read := readTail_numeral limits numeral ends
  rw [written]
  cases isNegative : numeral.negative with
  | true =>
    rw [if_pos rfl, List.singleton_append, readNumber_minus,
      readUnsigned_toDigits _ _ _ _ (tail_stops numeral ends), ← isNegative, read]
  | false =>
    rw [if_neg Bool.false_ne_true, List.nil_append, readNumber_toDigits,
      readUnsigned_toDigits _ _ _ _ (tail_stops numeral ends), ← isNegative, read]

/-! ## Items -/

theorem skipBlanks_append {blanks : List Char} (allBlank : ∀ char ∈ blanks, isBlank char = true)
    (text : List Char) : skipBlanks (blanks ++ text) = skipBlanks text :=
  List.dropWhile_append_of_pos allBlank

theorem skipBlanks_cons {char : Char} (notBlank : isBlank char = false) (text : List Char) :
    skipBlanks (char :: text) = char :: text := List.dropWhile_cons_of_neg (by simp [notBlank])

theorem replicate_blank (count : Nat) : ∀ char ∈ List.replicate count ' ', isBlank char = true := by
  intro char member
  rw [List.eq_of_mem_replicate member]
  rfl

theorem gap_blank (layout : Layout) (level : Nat) :
    ∀ char ∈ layout.gap level, isBlank char = true := by
  intro char member
  rw [Layout.gap] at member
  split at member
  · cases member
  · rcases List.mem_cons.mp member with rfl | further
    · rfl
    · exact replicate_blank _ char further

theorem ends_gap (layout : Layout) (level : Nat) {rest : List Char} (ends : Ends rest) :
    Ends (layout.gap level ++ rest) := by
  rw [Layout.gap]
  split
  · exact ends
  · exact ends_cons _ ⟨rfl, by decide, by decide, by decide⟩

/-- The reader reads the value from the text, whatever follows. -/
structure Written {α : Type} (item : Reader α) (closing : Char) (value : α) (text : List Char) :
    Prop where
  begins : ∃ first later, text = first :: later ∧ isBlank first = false ∧ first ≠ closing
  reads : ∀ rest, Ends rest → item (text ++ rest) = .ok (value, rest)

def isClosing (char : Char) : Prop := char = ']' ∨ char = '\x7d'

theorem isClosing_ends {closing : Char} (isClosing' : isClosing closing) :
    isBlank closing = false ∧ closing ≠ ',' ∧ closing.isDigit = false ∧ closing ≠ '.' ∧
      closing ≠ 'e' ∧ closing ≠ 'E' := by
  rcases isClosing' with rfl | rfl <;> decide

section Items

variable {α : Type} {item : Reader α} {closing : Char} {value : α} {values : List α}
  {text : List Char} {texts : List (List Char)}

theorem Written.skip (written : Written item closing value text) (rest : List Char) :
    skipBlanks (text ++ rest) = text ++ rest := by
  obtain ⟨first, later, rfl, notBlank, _⟩ := written.begins
  exact skipBlanks_cons notBlank _

theorem readItems_last (isClosing' : isClosing closing)
    (written : Written item closing value text) (layout : Layout) (level bound : Nat)
    (rest : List Char) :
    readItems item closing (bound + 1) (text ++ (layout.gap level ++ closing :: rest)) =
      .ok ([value], rest) := by
  obtain ⟨notBlank, _, other⟩ := isClosing_ends isClosing'
  rw [readItems, written.reads _ (ends_gap layout level (ends_cons rest other))]
  dsimp only
  rw [skipBlanks_append (gap_blank layout level), skipBlanks_cons notBlank]
  exact if_pos rfl

theorem readItems_comma (isClosing' : isClosing closing)
    (written : Written item closing value text) (bound : Nat) {rest further : List Char}
    (skipped : skipBlanks rest = further) :
    readItems item closing (bound + 1) (text ++ ',' :: rest) =
      match readItems item closing bound further with
      | .error fault => .error fault
      | .ok (values, rest) => .ok (value :: values, rest) := by
  subst skipped
  have notComma := (isClosing_ends isClosing').2.1
  rw [readItems, written.reads _ (ends_cons rest ⟨rfl, by decide, by decide, by decide⟩)]
  dsimp only
  rw [skipBlanks_cons (show isBlank ',' = false from rfl)]
  exact (if_neg (Ne.symm notComma)).trans (if_pos rfl)

/-- All the items of a level, with whatever follows the closing bracket. -/
theorem readItems_written (isClosing' : isClosing closing)
    (written : Written item closing value text)
    (allWritten : List.Forall₂ (Written item closing) values texts) (layout : Layout)
    (level outer : Nat) (rest : List Char) (bound : Nat) (enough : texts.length < bound) :
    readItems item closing bound
      (text ++ (layout.writeLater level texts ++ (layout.gap outer ++ closing :: rest))) =
      .ok (value :: values, rest) := by
  induction allWritten generalizing value text bound with
  | nil =>
    obtain ⟨bound, rfl⟩ := Nat.exists_eq_succ_of_ne_zero (show bound ≠ 0 by omega)
    exact readItems_last isClosing' written layout outer bound rest
  | @cons next nextText values texts nextWritten allWritten inductionHypothesis =>
    obtain ⟨bound, rfl⟩ := Nat.exists_eq_succ_of_ne_zero (show bound ≠ 0 by omega)
    have later := inductionHypothesis nextWritten bound
      (show texts.length < bound by simpa using Nat.lt_of_succ_lt_succ enough)
    have layedOut : layout.writeLater level (nextText :: texts) ++
        (layout.gap outer ++ closing :: rest) = ',' :: (List.replicate layout.afterItem ' ' ++
          (layout.gap level ++ (nextText ++ (layout.writeLater level texts ++
            (layout.gap outer ++ closing :: rest))))) := by
      simp only [Layout.writeLater, List.flatMap_cons, List.append_assoc, List.cons_append]
    have skipped : skipBlanks (List.replicate layout.afterItem ' ' ++ (layout.gap level ++
        (nextText ++ (layout.writeLater level texts ++ (layout.gap outer ++ closing :: rest))))) =
        nextText ++ (layout.writeLater level texts ++ (layout.gap outer ++ closing :: rest)) := by
      rw [skipBlanks_append (replicate_blank _), skipBlanks_append (gap_blank _ _),
        nextWritten.skip]
    rw [layedOut, readItems_comma isClosing' written bound skipped, later]

theorem writeLater_length (layout : Layout) (level : Nat) (texts : List (List Char)) :
    texts.length ≤ (layout.writeLater level texts).length := by
  induction texts with
  | nil => exact Nat.le_refl 0
  | cons text texts inductionHypothesis =>
    rw [Layout.writeLater, List.flatMap_cons, ← Layout.writeLater]
    simp only [List.length_append, List.length_cons]
    omega

/-- What stands between the brackets is read. -/
theorem readEnclosed_enclose (isClosing' : isClosing closing)
    (allWritten : List.Forall₂ (Written item closing) values texts) (layout : Layout)
    (level : Nat) (opening : Char) :
    ∃ body, layout.enclose level opening closing texts = opening :: body ∧
      ∀ rest, readEnclosed item closing (body ++ rest) = .ok (values, rest) := by
  obtain ⟨closingVisible, _⟩ := isClosing_ends isClosing'
  cases allWritten with
  | nil =>
    refine ⟨[closing], rfl, fun rest => ?_⟩
    rw [List.singleton_append, readEnclosed, skipBlanks_cons closingVisible]
    exact if_pos rfl
  | @cons value text values texts written allWritten =>
    refine ⟨_, rfl, fun rest => ?_⟩
    obtain ⟨first, later, isText, notBlank, notClosing⟩ := written.begins
    have reassociated : layout.gap (level + 1) ++ text ++ layout.writeLater (level + 1) texts ++
        layout.gap level ++ [closing] ++ rest = layout.gap (level + 1) ++ (text ++
          (layout.writeLater (level + 1) texts ++ (layout.gap level ++ closing :: rest))) := by
      simp only [List.append_assoc, List.singleton_append]
    have few := writeLater_length layout (level + 1) texts
    have read := readItems_written isClosing' written allWritten layout (level + 1) level rest
    change readEnclosed item closing (layout.gap (level + 1) ++ text ++
      layout.writeLater (level + 1) texts ++ layout.gap level ++ [closing] ++ rest) = _
    rw [reassociated, readEnclosed, skipBlanks_append (gap_blank _ _), written.skip, isText]
    rw [isText] at read
    dsimp only [List.cons_append]
    rw [if_neg notClosing]
    apply read
    simp only [List.length_append]
    omega

end Items

/-! ## Values -/

/-- A value that keeps the limits: it is nested so deep at most, its whole numbers are short and no
dictionary has a key twice. -/
inductive Readable (digits : Nat) : Nat → Json → Prop
  | null (depth : Nat) : Readable digits depth .null
  | bool (depth : Nat) (value : Bool) : Readable digits depth (.bool value)
  | int (depth : Nat) {value : Int} (short : (Nat.toDigits 10 value.natAbs).length ≤ digits) :
    Readable digits depth (.int value)
  | real (depth : Nat) (numeral : Numeral) : Readable digits depth (.real numeral)
  | nan (depth : Nat) : Readable digits depth .nan
  | infinite (depth : Nat) (negative : Bool) : Readable digits depth (.infinite negative)
  | text (depth : Nat) (value : List Char) : Readable digits depth (.text value)
  | list {depth : Nat} {elements : List Json}
      (readable : ∀ element ∈ elements, Readable digits depth element) :
    Readable digits (depth + 1) (.list elements)
  | dict {depth : Nat} {entries : List (List Char × Json)}
      (distinct : (entries.map (·.1)).Nodup)
      (readable : ∀ entry ∈ entries, Readable digits depth entry.2) :
    Readable digits (depth + 1) (.dict entries)

/-- An integer of few digits is readable wherever so many are allowed. -/
theorem Readable.small {digits depth : Nat} {value : Int} (width : Nat)
    (small : value.natAbs < 10 ^ (width + 1)) (wide : width + 1 ≤ digits) :
    Readable digits depth (.int value) := by
  have short : (Nat.toDigits 10 value.natAbs).length ≤ width + 1 :=
    (Nat.length_toDigits_le_iff (by decide) width.succ_pos).mpr small
  exact .int depth (Nat.le_trans short wide)

theorem setEntry_new {key : List Char} {entries : List (List Char × Json)}
    (new : key ∉ entries.map (·.1)) (value : Json) :
    setEntry key value entries = entries ++ [(key, value)] := by
  induction entries with
  | nil => rfl
  | cons entry entries inductionHypothesis =>
    rw [List.map_cons, List.mem_cons, not_or] at new
    rw [setEntry, if_neg (Ne.symm new.1), inductionHypothesis new.2, List.cons_append]

theorem foldl_setEntry {entries : List (List Char × Json)} (before : List (List Char × Json))
    (distinct : ((before ++ entries).map (·.1)).Nodup) :
    entries.foldl (fun dict entry => setEntry entry.1 entry.2 dict) before = before ++ entries := by
  induction entries generalizing before with
  | nil => exact (List.append_nil before).symm
  | cons entry entries inductionHypothesis =>
    have new : entry.1 ∉ before.map (·.1) := by
      intro member
      rw [List.map_append, List.nodup_append] at distinct
      exact distinct.2.2 _ member _ (by simp) rfl
    have moved : before ++ entry :: entries = before ++ [entry] ++ entries := by simp
    rw [List.foldl_cons, setEntry_new new, moved]
    exact inductionHypothesis _ (moved ▸ distinct)

/-- Entries with distinct keys make up a dictionary as they stand. -/
theorem dictOf_distinct {entries : List (List Char × Json)}
    (distinct : (entries.map (·.1)).Nodup) : dictOf entries = entries :=
  foldl_setEntry [] distinct

/-! ### What kind of value it is -/

section Terms

variable (limits : Limits) (list dict : Reader Json)

theorem readTerm_quote (rest : List Char) :
    readTerm limits list dict ('"' :: rest) =
      match readChars (rest.length + 1) (.plain none) rest with
      | .error fault => .error fault
      | .ok (chars, rest) => .ok (.text chars, rest) := rfl

theorem readTerm_sign (rest : List Char) :
    readTerm limits list dict ('-' :: rest) =
      match constants.find? fun constant => constant.1.isPrefixOf ('-' :: rest) with
      | some (word, value) => .ok (value, ('-' :: rest).drop word.length)
      | none => readNumber limits ('-' :: rest) := rfl

theorem readTerm_text (text rest : List Char) :
    readTerm limits list dict (writeText text ++ rest) = .ok (.text text, rest) := by
  have written : writeText text ++ rest = '"' :: (text.flatMap escapeChar ++ '"' :: rest) := by
    simp [writeText]
  rw [written, readTerm_quote, readChars_text]

/-- A digit begins none of the constants. -/
theorem readTerm_digit {first : Char} (isDigit : first.isDigit = true) (later : List Char) :
    readTerm limits list dict (first :: later) = readNumber limits (first :: later) := by
  have isOther : ∀ other, other.isDigit = false → first ≠ other := by
    rintro other notDigit rfl
    rw [isDigit] at notDigit
    cases notDigit
  have noConstant : (constants.find? fun constant => constant.1.isPrefixOf (first :: later)) =
      none := by
    simp [constants, List.isPrefixOf, Ne.symm (isOther 'n' rfl), Ne.symm (isOther 't' rfl),
      Ne.symm (isOther 'f' rfl), Ne.symm (isOther 'N' rfl), Ne.symm (isOther 'I' rfl),
      Ne.symm (isOther '-' rfl)]
  unfold readTerm
  split
  · rename_i isQuote
    exact absurd (List.cons.inj isQuote).1 (isOther '"' rfl)
  · rename_i isBracket
    exact absurd (List.cons.inj isBracket).1 (isOther '[' rfl)
  · rename_i isBrace
    exact absurd (List.cons.inj isBrace).1 (isOther '\x7b' rfl)
  · rw [noConstant]

theorem readTerm_minus {first : Char} (isDigit : first.isDigit = true) (later : List Char) :
    readTerm limits list dict ('-' :: first :: later) =
      readNumber limits ('-' :: first :: later) := by
  have notInfinite : 'I' ≠ first := by
    rintro rfl
    cases isDigit
  have noConstant : (constants.find? fun constant =>
      constant.1.isPrefixOf ('-' :: first :: later)) = none := by
    simp [constants, List.isPrefixOf, notInfinite]
  rw [readTerm_sign, noConstant]

theorem readTerm_int {value : Int}
    (short : (Nat.toDigits 10 value.natAbs).length ≤ limits.digits) {rest : List Char}
    (ends : Ends rest) :
    readTerm limits list dict (writeInt value ++ rest) = .ok (.int value, rest) := by
  rw [← readNumber_writeInt limits short ends]
  cases value with
  | ofNat value =>
    obtain ⟨first, later, digits, isDigit⟩ := toDigits_head value rest
    rw [writeInt, digits]
    exact readTerm_digit limits list dict isDigit later
  | negSucc value =>
    obtain ⟨first, later, digits, isDigit⟩ := toDigits_head (value + 1) rest
    rw [writeInt, List.cons_append, digits]
    exact readTerm_minus limits list dict isDigit later

theorem readTerm_real (numeral : Numeral) {rest : List Char} (ends : Ends rest) :
    readTerm limits list dict (writeNumeral numeral ++ rest) = .ok (.real numeral, rest) := by
  rw [← readNumber_writeNumeral limits numeral ends]
  obtain ⟨first, later, digits, isDigit⟩ := toDigits_head numeral.whole (numeral.tail ++ rest)
  have written : writeNumeral numeral ++ rest = (if numeral.negative then ['-'] else []) ++
      (Nat.toDigits 10 numeral.whole ++ (numeral.tail ++ rest)) := by
    simp only [writeNumeral, Numeral.tail, List.append_assoc]
  rw [written, digits]
  split
  · exact readTerm_minus limits list dict isDigit later
  · exact readTerm_digit limits list dict isDigit later

end Terms

/-- Every value is read by `readTerm`, from one depth or another. -/
theorem readValue_term (limits : Limits) (depth : Nat) :
    ∃ list dict, readValue limits depth = readTerm limits list dict := by
  cases depth with
  | zero => exact ⟨_, _, rfl⟩
  | succ depth => exact ⟨_, _, rfl⟩

theorem readValue_list (limits : Limits) (depth : Nat) (text : List Char) :
    readValue limits (depth + 1) ('[' :: text) =
      match readEnclosed (readValue limits depth) ']' text with
      | .error fault => .error fault
      | .ok (elements, rest) => .ok (.list elements, rest) := rfl

theorem readValue_dict (limits : Limits) (depth : Nat) (text : List Char) :
    readValue limits (depth + 1) ('\x7b' :: text) =
      match readEnclosed (readEntry (readValue limits depth)) '\x7d' text with
      | .error fault => .error fault
      | .ok (entries, rest) => .ok (.dict (dictOf entries), rest) := rfl

/-- The first character of a value. -/
theorem write_begins (layout : Layout) (level : Nat) (value : Json) :
    ∃ first later, write layout level value = first :: later ∧ isBlank first = false ∧
      first ≠ ']' := by
  have digital : ∀ {first : Char}, first.isDigit = true → isBlank first = false ∧ first ≠ ']' := by
    intro first isDigit
    constructor
    · by_contra blank
      simp only [isBlank, List.contains_cons, List.contains_nil, Bool.or_false, Bool.not_eq_false,
        Bool.or_eq_true, beq_iff_eq] at blank
      rcases blank with rfl | rfl | rfl | rfl <;> cases isDigit
    · rintro rfl
      cases isDigit
  have enclosed : ∀ opening closing texts, isBlank opening = false ∧ opening ≠ ']' →
      ∃ first later, layout.enclose level opening closing texts = first :: later ∧
        isBlank first = false ∧ first ≠ ']' := by
    intro opening closing texts isVisible
    cases texts with
    | nil => exact ⟨opening, _, rfl, isVisible⟩
    | cons text texts => exact ⟨opening, _, rfl, isVisible⟩
  have visible : isBlank '-' = false ∧ '-' ≠ ']' := by decide
  -- a closing bracket would end a list that has no element there
  cases value with
  | null => exact ⟨'n', _, rfl, by decide⟩
  | bool value => cases value with
    | true => exact ⟨'t', _, rfl, by decide⟩
    | false => exact ⟨'f', _, rfl, by decide⟩
  | int value =>
    cases value with
    | ofNat value =>
      obtain ⟨first, later, digits, isDigit⟩ := toDigits_head value []
      rw [List.append_nil] at digits
      exact ⟨first, later, digits, digital isDigit⟩
    | negSucc value => exact ⟨'-', _, rfl, visible⟩
  | real numeral =>
    obtain ⟨first, later, digits, isDigit⟩ := toDigits_head numeral.whole numeral.tail
    have written : writeNumeral numeral = (if numeral.negative then ['-'] else []) ++
        (Nat.toDigits 10 numeral.whole ++ numeral.tail) := by
      simp only [writeNumeral, Numeral.tail, List.append_assoc]
    rw [write_real, written, digits]
    split
    · exact ⟨'-', _, rfl, visible⟩
    · exact ⟨first, later, rfl, digital isDigit⟩
  | nan => exact ⟨'N', _, rfl, by decide⟩
  | infinite negative => cases negative with
    | true => exact ⟨'-', _, rfl, visible⟩
    | false => exact ⟨'I', _, rfl, by decide⟩
  | text value => exact ⟨'"', _, rfl, by decide⟩
  | list elements => exact enclosed _ _ _ (by decide)
  | dict entries => exact enclosed _ _ _ (by decide)

/-! ### The round trip -/

theorem readEntry_quote (value : Reader Json) (rest : List Char) :
    readEntry value ('"' :: rest) =
      match readChars (rest.length + 1) (.plain none) rest with
      | .error fault => .error fault
      | .ok (key, rest) =>
        match skipBlanks rest with
        | ':' :: rest =>
          match value (skipBlanks rest) with
          | .error fault => .error fault
          | .ok (value, rest) => .ok ((key, value), rest)
        | rest => .error (.unreadable "Expecting ':' delimiter" rest.length) := rfl

theorem readEntry_written {value : Reader Json} {closing : Char} (isClosing' : isClosing closing)
    {key : List Char} {entry : Json} {text : List Char}
    (written : Written value ']' entry text) (layout : Layout) :
    Written (readEntry value) closing (key, entry) (layout.writeKey key ++ text) := by
  constructor
  · refine ⟨'"', _, rfl, rfl, ?_⟩
    rcases isClosing' with rfl | rfl <;> decide
  · intro rest ends
    have spread : layout.writeKey key ++ text ++ rest = '"' :: (key.flatMap escapeChar ++
        '"' :: ':' :: (List.replicate layout.afterKey ' ' ++ (text ++ rest))) := by
      simp [Layout.writeKey, writeText]
    rw [spread, readEntry_quote, readChars_text]
    dsimp only
    rw [skipBlanks_cons (show isBlank ':' = false from rfl)]
    simp only [skipBlanks_append (replicate_blank _), written.skip, written.reads rest ends]

theorem forall₂_writeElements {item : Reader Json} {layout : Layout} {level : Nat}
    (elements : List Json)
    (written : ∀ element ∈ elements, Written item ']' element (write layout level element)) :
    List.Forall₂ (Written item ']') elements (writeElements layout level elements) := by
  induction elements with
  | nil => exact .nil
  | cons element elements inductionHypothesis =>
    exact .cons (written element List.mem_cons_self)
      (inductionHypothesis fun other member => written other (List.mem_cons_of_mem _ member))

theorem forall₂_writeEntries {item : Reader Json} {layout : Layout} {level : Nat}
    (entries : List (List Char × Json))
    (written : ∀ entry ∈ entries, Written item ']' entry.2 (write layout level entry.2)) :
    List.Forall₂ (Written (readEntry item) '\x7d') entries
      (writeEntries layout level entries) := by
  induction entries with
  | nil => exact .nil
  | cons entry entries inductionHypothesis =>
    exact .cons (readEntry_written (.inr rfl) (written entry List.mem_cons_self) layout)
      (inductionHypothesis fun other member => written other (List.mem_cons_of_mem _ member))

/-- **A value is read as it was written.** -/
theorem write_written {limits : Limits} {depth : Nat} {value : Json}
    (readable : Readable limits.digits depth value) (layout : Layout) (level : Nat) :
    Written (readValue limits depth) ']' value (write layout level value) := by
  refine ⟨write_begins layout level value, fun rest ends => ?_⟩
  -- by the value; a leaf is read at any depth
  induction readable generalizing level rest with
  | null depth =>
    obtain ⟨list, dict, isTerm⟩ := readValue_term limits depth
    rw [isTerm]
    rfl
  | bool depth value =>
    obtain ⟨list, dict, isTerm⟩ := readValue_term limits depth
    rw [isTerm]
    cases value <;> rfl
  | int depth short =>
    obtain ⟨list, dict, isTerm⟩ := readValue_term limits depth
    rw [isTerm, write_int]
    exact readTerm_int limits list dict short ends
  | real depth numeral =>
    obtain ⟨list, dict, isTerm⟩ := readValue_term limits depth
    rw [isTerm, write_real]
    exact readTerm_real limits list dict numeral ends
  | nan depth =>
    obtain ⟨list, dict, isTerm⟩ := readValue_term limits depth
    rw [isTerm]
    rfl
  | infinite depth negative =>
    obtain ⟨list, dict, isTerm⟩ := readValue_term limits depth
    rw [isTerm]
    cases negative <;> rfl
  | text depth value =>
    obtain ⟨list, dict, isTerm⟩ := readValue_term limits depth
    rw [isTerm, write_text]
    exact readTerm_text limits list dict value rest
  | @list depth elements readable inductionHypothesis =>
    -- the elements are written one level further in, and may go one less deep
    have allWritten := forall₂_writeElements elements fun element member =>
      ⟨write_begins layout (level + 1) element,
        fun rest ends => inductionHypothesis element member (level + 1) rest ends⟩
    obtain ⟨body, enclosed, read⟩ := readEnclosed_enclose (.inl rfl) allWritten layout level '['
    rw [write_list, enclosed, List.cons_append, readValue_list, read]
  | @dict depth entries distinct readable inductionHypothesis =>
    have allWritten := forall₂_writeEntries entries fun entry member =>
      ⟨write_begins layout (level + 1) entry.2,
        fun rest ends => inductionHypothesis entry member (level + 1) rest ends⟩
    obtain ⟨body, enclosed, read⟩ := readEnclosed_enclose (.inr rfl) allWritten layout level '\x7b'
    rw [write_dict, enclosed, List.cons_append, readValue_dict, read]
    -- the keys are distinct, so that no entry takes the place of another
    exact congrArg (fun entries => Except.ok (Json.dict entries, rest)) (dictOf_distinct distinct)

end JsonText
