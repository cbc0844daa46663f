import FoxessGateway.Library.Patterns
import FoxessGateway.Server.Session
import Mathlib.Data.Nat.Digits.Defs
import Mathlib.Data.Prod.Lex

/-! # The firmware gate

`supports_active_power_limit` decides by two numbers that a regular expression finds in the
firmware text.  They are the leftmost version in it: the search comes to it whatever stands around
it, and reads its numbers as a whole. -/

namespace FoxessGateway.Server

open Patterns

/-! ## The regular expression -/

/-- `(\d+)\.(\d+)(?:\.\d+)?`, with `\d` as a parameter: it has the digits of other scripts too. -/
def numbersPattern (digit : Char → Bool) : Pattern Char :=
  .seq (.group 1 (.repeated digit)) (.seq (.one (· == '.'))
    (.seq (.group 2 (.repeated digit)) (.maybe (.seq (.one (· == '.')) (.repeated digit)))))

/-- `v` under `(?i)` -/
def isV (char : Char) : Bool := char == 'v' || char == 'V'

/-- `(?i)(?:^|[^0-9])v?(\d+)\.(\d+)(?:\.\d+)?` -/
def versionPattern (digit : Char → Bool) : Pattern Char :=
  .seq (.either .start (.one (!·.isDigit)))
    (.seq (.maybe (.one isV)) (numbersPattern digit))

/-- `match.group(1)` and `match.group(2)` -/
def versionGroups (found : Match Char) : Text × Text :=
  ((found.groups.lookup 1).getD [], (found.groups.lookup 2).getD [])

def Ascii (text : Text) : Prop := ∀ char ∈ text, char.toNat < 128

/-- A class of digits that has no other ASCII characters than the ten. -/
def IsDigitClass (digit : Char → Bool) : Prop :=
  ∀ char : Char, char.toNat < 128 → digit char = char.isDigit

section Search

variable {digit : Char → Bool}

theorem IsDigitClass.takeWhile (isClass : IsDigitClass digit) {text : Text} (ascii : Ascii text) :
    text.takeWhile digit = text.takeWhile Char.isDigit ∧
      text.dropWhile digit = text.dropWhile Char.isDigit := by
  induction text with
  | nil => exact ⟨rfl, rfl⟩
  | cons char text inductionHypothesis =>
    have here := isClass char (ascii char List.mem_cons_self)
    have later := inductionHypothesis fun other member =>
      ascii other (List.mem_cons_of_mem char member)
    rw [List.takeWhile_cons, List.takeWhile_cons, List.dropWhile_cons, List.dropWhile_cons, here,
      later.1, later.2]
    exact ⟨rfl, rfl⟩

theorem Ascii.suffix {text rest : Text} (ascii : Ascii text) (ends : rest <:+ text) : Ascii rest :=
  fun char member => ascii char (ends.subset member)

/-- The two numbers are read as a whole, and the third one does not matter. -/
theorem first_numbers (isClass : IsDigitClass digit) {place : Place Char}
    (ascii : Ascii place.rest) :
    ((numbersPattern digit).tries place).head?.map versionGroups = versionDigits place.rest := by
  have dot : ∀ char, digit char = true → (char == '.') = false := by
    intro char isDigit
    rw [beq_eq_false_iff_ne]
    rintro rfl
    rw [isClass '.' (by decide)] at isDigit
    cases isDigit
  have major := isClass.takeWhile ascii
  rw [numbersPattern, tries_group_repeated ((refuses_one dot).seq _), versionDigits, major.1,
    major.2]
  by_cases empty : place.rest.takeWhile Char.isDigit = []
  · rw [if_pos empty, empty]
    split
    · rfl
    · rfl
  rw [if_neg empty, List.head?_map]
  have after := ascii.suffix (List.dropWhile_suffix Char.isDigit)
  generalize place.rest.dropWhile Char.isDigit = rest at after ⊢
  split
  · -- the dot is there
    rename_i rest
    have minor := isClass.takeWhile (after.suffix (List.suffix_cons '.' rest))
    rw [tries_one_seq _ _ _ (by decide), first_group_repeated _ (tries_maybe_ne_nil _), minor.1,
      minor.2]
    by_cases none : rest.takeWhile Char.isDigit = []
    · rw [if_pos none, if_neg (not_and_of_not_right _ (not_not.mpr none))]
      rfl
    · rw [if_neg none, if_pos ⟨empty, none⟩]
      obtain ⟨found, others, tried⟩ := List.exists_cons_of_ne_nil
        (tries_maybe_ne_nil (.seq (.one (· == '.')) (.repeated digit))
          ⟨true, rest.dropWhile Char.isDigit⟩)
      rw [tried]
      rfl
  · rename_i noDot
    rw [tries_one_seq_absent]
    · rfl
    · intro char first
      rw [beq_eq_false_iff_ne]
      rintro rfl
      obtain ⟨tail, isRest⟩ := List.head?_eq_some_iff.mp first
      exact noDot tail isRest

theorem numbersPattern_refuses (isClass : IsDigitClass digit) :
    (numbersPattern digit).Refuses isV := by
  refine ((refuses_repeated fun char isV => ?_).group 1).seq _
  rcases Bool.or_eq_true _ _ ▸ isV with lower | upper
  · rw [beq_iff_eq.mp lower, isClass 'v' (by decide)]
    rfl
  · rw [beq_iff_eq.mp upper, isClass 'V' (by decide)]
    rfl

theorem afterOptionalV_of_isV {char : Char} (text : Text) (here : isV char = true) :
    afterOptionalV (char :: text) = text := by
  rcases Bool.or_eq_true _ _ ▸ here with lower | upper
  · rw [beq_iff_eq.mp lower]
    rfl
  · rw [beq_iff_eq.mp upper]
    rfl

theorem afterOptionalV_of_head {text : Text} (absent : ∀ char ∈ text.head?, isV char = false) :
    afterOptionalV text = text := by
  unfold afterOptionalV
  split
  · exact absurd (absent 'v' rfl) (by decide)
  · exact absurd (absent 'V' rfl) (by decide)
  · rfl

theorem first_versionAt (isClass : IsDigitClass digit) {place : Place Char}
    (ascii : Ascii place.rest) :
    ((Pattern.seq (.maybe (.one isV)) (numbersPattern digit)).tries place).head?.map
      versionGroups = versionAt place.rest := by
  by_cases absent : ∀ char ∈ place.rest.head?, isV char = false
  · rw [tries_maybe_one_absent _ absent, first_numbers isClass ascii, versionAt,
      afterOptionalV_of_head absent]
  · simp only [not_forall] at absent
    obtain ⟨char, first, here⟩ := absent
    obtain ⟨inside, rest⟩ := place
    obtain ⟨text, rfl⟩ := List.head?_eq_some_iff.mp first
    have isV := Bool.eq_true_of_not_eq_false here
    rw [tries_maybe_one (numbersPattern_refuses isClass) inside text isV,
      first_numbers isClass (ascii.suffix (List.suffix_cons char text)), versionAt,
      afterOptionalV_of_isV text isV]

/-- The pattern behind a character that is not a digit. -/
def versionBehind : Text → Option (Text × Text)
  | [] => none
  | char :: text => if char.isDigit then none else versionAt text

theorem first_version (isClass : IsDigitClass digit) {place : Place Char}
    (ascii : Ascii place.rest) :
    ((versionPattern digit).tries place).head?.map versionGroups =
      (if place.inside then none else versionAt place.rest).or (versionBehind place.rest) := by
  have split : (versionPattern digit).tries place =
      (Pattern.seq .start (.seq (.maybe (.one isV)) (numbersPattern digit))).tries place ++
        (Pattern.seq (.one (!·.isDigit)) (.seq (.maybe (.one isV)) (numbersPattern digit))).tries
          place := List.flatMap_append
  rw [split, List.head?_append, Option.map_or]
  obtain ⟨inside, rest⟩ := place
  congr 1
  · cases inside with
    | true =>
      rw [tries_start_seq_inside]
      rfl
    | false =>
      rw [tries_start_seq]
      exact first_versionAt isClass ascii
  · cases rest with
    | nil =>
      rw [tries_one_seq_absent _ nofun]
      rfl
    | cons char rest =>
      rw [versionBehind]
      by_cases isDigit : char.isDigit = true
      · rw [if_pos isDigit, tries_one_seq_absent]
        · rfl
        · rintro _ ⟨⟩
          simp [isDigit]
      · rw [if_neg isDigit, tries_one_seq _ _ _ (by simpa using isDigit)]
        exact first_versionAt isClass (ascii.suffix (List.suffix_cons char rest))

theorem searchFrom_version (isClass : IsDigitClass digit) {text : Text} (ascii : Ascii text) :
    (searchFrom (versionPattern digit) true text).map versionGroups = searchVersionLater text := by
  induction text with
  | nil => exact first_version isClass ascii
  | cons char text inductionHypothesis =>
    rw [searchFrom, Option.map_or, first_version isClass ascii,
      inductionHypothesis (ascii.suffix (List.suffix_cons char text))]
    rfl

/-- The search for the regular expression is the scan of the model. -/
theorem search_version (isClass : IsDigitClass digit) {text : Text} (ascii : Ascii text) :
    (search (versionPattern digit) text).map versionGroups = searchVersion text := by
  cases text with
  | nil =>
    change ((versionPattern digit).tries ⟨false, []⟩).head?.map versionGroups = _
    exact first_version isClass ascii
  | cons char text =>
    rw [search, searchFrom, Option.map_or, first_version isClass ascii,
      searchFrom_version isClass (ascii.suffix (List.suffix_cons char text)), Option.or_assoc]
    rfl

end Search

/-! ## The leftmost version -/

/-- A number in a text, with all of its digits. -/
def IsNumber (digits : Text) : Prop := digits ≠ [] ∧ ∀ digit ∈ digits, digit.isDigit = true

/-- A maximal run of digits, followed by a dot and a maximal run of digits again. -/
structure VersionRun (text before major minor after : Text) : Prop where
  split : text = before ++ (major ++ '.' :: (minor ++ after))
  major : IsNumber major
  minor : IsNumber minor
  majorWhole : ∀ char ∈ before.getLast?, char.isDigit = false
  minorWhole : ∀ char ∈ after.head?, char.isDigit = false

/-- The two numbers of the version that has no other to its left. -/
def LeftmostVersion (text major minor : Text) : Prop :=
  ∃ before after, VersionRun text before major minor after ∧
    ∀ other major' minor' after', VersionRun text other major' minor' after' →
      before.length ≤ other.length

/-- The version that begins at the first place behind which no digit stands. -/
def versionFrom : Bool → Text → Option (Text × Text)
  | _, [] => none
  | afterDigit, char :: text =>
    (if afterDigit then none else versionDigits (char :: text)).or (versionFrom char.isDigit text)

theorem versionDigits_isV {char : Char} (text : Text) (here : isV char = true) :
    versionDigits (char :: text) = none := by
  rcases Bool.or_eq_true _ _ ▸ here with lower | upper
  · rw [beq_iff_eq.mp lower]
    rfl
  · rw [beq_iff_eq.mp upper]
    rfl

theorem isV_notDigit {char : Char} (here : isV char = true) : char.isDigit = false := by
  rcases Bool.or_eq_true _ _ ▸ here with lower | upper
  · rw [beq_iff_eq.mp lower]
    rfl
  · rw [beq_iff_eq.mp upper]
    rfl

/-- A `v` in front of a version changes nothing: the next place has the same version. -/
theorem versionAt_or_versionFrom (char : Char) (text : Text) :
    (versionAt (char :: text)).or (versionFrom char.isDigit text) =
      versionFrom false (char :: text) := by
  rw [versionFrom, if_neg (by decide)]
  by_cases here : isV char = true
  · -- no digit is a `v`, so the place after it is looked at next
    rw [versionAt, afterOptionalV_of_isV text here, versionDigits_isV text here,
      isV_notDigit here, Option.none_or]
    cases text with
    | nil => rfl
    | cons next text => rw [versionFrom, if_neg (by decide), ← Option.or_assoc, Option.or_self]
  · have absent : ∀ first ∈ (char :: text).head?, isV first = false := by
      rintro _ ⟨⟩
      exact Bool.eq_false_of_not_eq_true here
    rw [versionAt, afterOptionalV_of_head absent]

theorem searchVersionLater_eq (char : Char) (text : Text) :
    searchVersionLater (char :: text) = versionFrom char.isDigit text := by
  induction text generalizing char with
  | nil =>
    rw [searchVersionLater]
    split <;> rfl
  | cons next text inductionHypothesis =>
    rw [searchVersionLater, inductionHypothesis next]
    by_cases isDigit : char.isDigit = true
    · rw [isDigit, if_pos rfl, versionFrom, if_pos rfl]
    · rw [if_neg isDigit, Bool.eq_false_of_not_eq_true isDigit, versionAt_or_versionFrom]

/-- The search comes to the first place in any case. -/
theorem searchVersion_eq (text : Text) : searchVersion text = versionFrom false text := by
  cases text with
  | nil => rfl
  | cons char text => rw [searchVersion, searchVersionLater_eq, versionAt_or_versionFrom]

theorem takeWhile_number {digits rest : Text} (allDigits : ∀ digit ∈ digits, digit.isDigit = true)
    (whole : ∀ char ∈ rest.head?, char.isDigit = false) :
    (digits ++ rest).takeWhile Char.isDigit = digits ∧
      (digits ++ rest).dropWhile Char.isDigit = rest := by
  rw [List.takeWhile_append_of_pos allDigits, List.dropWhile_append_of_pos allDigits]
  cases rest with
  | nil => exact ⟨List.append_nil digits, rfl⟩
  | cons char rest =>
    have other : ¬ char.isDigit = true := by simp [whole char rfl]
    rw [List.takeWhile_cons_of_neg other, List.dropWhile_cons_of_neg other]
    exact ⟨List.append_nil digits, rfl⟩

theorem versionDigits_eq_some {text major minor : Text} :
    versionDigits text = some (major, minor) ↔
      ∃ after, text = major ++ '.' :: (minor ++ after) ∧ IsNumber major ∧ IsNumber minor ∧
        ∀ char ∈ after.head?, char.isDigit = false := by
  constructor
  · intro found
    rw [versionDigits] at found
    dsimp only at found
    have parts := List.takeWhile_append_dropWhile (p := Char.isDigit) (l := text)
    split at found
    · rename_i rest dropped
      obtain ⟨⟨majorSome, minorSome⟩, same⟩ := Option.ite_none_right_eq_some.mp found
      cases same
      have minorParts := List.takeWhile_append_dropWhile (p := Char.isDigit) (l := rest)
      refine ⟨rest.dropWhile Char.isDigit, ?_, ⟨majorSome, fun _ => List.mem_takeWhile_imp⟩,
        ⟨minorSome, fun _ => List.mem_takeWhile_imp⟩, fun char first => ?_⟩
      · rw [minorParts, ← dropped, parts]
      · have refused := List.head?_dropWhile_not Char.isDigit rest
        rw [Option.mem_def.mp first] at refused
        exact refused
    · cases found
  · rintro ⟨after, rfl, isMajor, isMinor, whole⟩
    have dot : ∀ char ∈ ('.' :: (minor ++ after)).head?, char.isDigit = false := by
      rintro _ ⟨⟩
      rfl
    have first := takeWhile_number isMajor.2 dot
    have second := takeWhile_number isMinor.2 whole
    rw [versionDigits, first.1, first.2]
    change (if major ≠ [] ∧ (minor ++ after).takeWhile Char.isDigit ≠ [] then
      some (major, (minor ++ after).takeWhile Char.isDigit) else none) = _
    rw [second.1, if_pos ⟨isMajor.1, isMinor.1⟩]

def endsInDigit (text : Text) : Bool := text.getLast?.any Char.isDigit

theorem endsInDigit_eq_false {text : Text} :
    endsInDigit text = false ↔ ∀ char ∈ text.getLast?, char.isDigit = false := by
  rw [endsInDigit, Option.any_eq_false]
  simp

/-- The version that begins where the text is split. -/
theorem versionRun_iff {done rest major minor : Text} :
    (∃ after, VersionRun (done ++ rest) done major minor after) ↔
      endsInDigit done = false ∧ versionDigits rest = some (major, minor) := by
  rw [versionDigits_eq_some]
  constructor
  · rintro ⟨after, run⟩
    exact ⟨endsInDigit_eq_false.mpr run.majorWhole, after,
      List.append_cancel_left run.split, run.major, run.minor, run.minorWhole⟩
  · rintro ⟨whole, after, rfl, isMajor, isMinor, minorWhole⟩
    exact ⟨after, rfl, isMajor, isMinor, endsInDigit_eq_false.mp whole, minorWhole⟩

/-- A place is a split of the text. -/
theorem VersionRun.before_eq {done rest before major minor after : Text}
    (run : VersionRun (done ++ rest) before major minor after)
    (here : before.length = done.length) : before = done :=
  (List.append_inj run.split.symm here).1

/-- Nothing begins at the place if no version does. -/
theorem VersionRun.notHere {done rest before major minor after : Text}
    (run : VersionRun (done ++ rest) before major minor after)
    (none : (if endsInDigit done then none else versionDigits rest) = none) :
    before.length ≠ done.length := by
  intro here
  obtain rfl := run.before_eq here
  obtain ⟨whole, found⟩ := versionRun_iff.mp ⟨after, run⟩
  rw [whole, if_neg (by decide), found] at none
  cases none

/-- What begins at one place has one pair of numbers. -/
theorem VersionRun.unique {text before major minor after before' major' minor' after' : Text}
    (run : VersionRun text before major minor after)
    (run' : VersionRun text before' major' minor' after')
    (same : before'.length = before.length) : (major', minor') = (major, minor) := by
  obtain rfl := run.split
  obtain rfl := run'.before_eq same
  have found := (versionRun_iff.mp ⟨after, run⟩).2
  have found' := (versionRun_iff.mp ⟨after', run'⟩).2
  exact Option.some.inj (found'.symm.trans found)

theorem versionFrom_some {done rest major minor : Text}
    (found : versionFrom (endsInDigit done) rest = some (major, minor)) :
    ∃ more after, VersionRun (done ++ rest) (done ++ more) major minor after ∧
      ∀ other major' minor' after', VersionRun (done ++ rest) other major' minor' after' →
        done.length ≤ other.length → (done ++ more).length ≤ other.length := by
  induction rest generalizing done with
  | nil => cases found
  | cons char rest inductionHypothesis =>
    rw [versionFrom] at found
    rcases Option.or_eq_some_iff.mp found with here | ⟨none, later⟩
    · -- the version begins here
      split at here
      · cases here
      · rename_i whole
        obtain ⟨after, run⟩ :=
          versionRun_iff.mpr ⟨Bool.eq_false_of_not_eq_true whole, here⟩
        refine ⟨[], after, by rwa [List.append_nil], fun other _ _ _ _ behind => ?_⟩
        rwa [List.append_nil]
    · -- it begins later, and no other begins here
      have next : endsInDigit (done ++ [char]) = char.isDigit := by simp [endsInDigit]
      have split : done ++ char :: rest = done ++ [char] ++ rest := by simp
      rw [← next] at later
      obtain ⟨more, after, run, leftmost⟩ := inductionHypothesis later
      refine ⟨char :: more, after, ?_, fun other major' minor' after' another behind => ?_⟩
      · rw [split, show done ++ char :: more = done ++ [char] ++ more by simp]
        exact run
      · have further := another.notHere none
        rw [split] at another
        have least := leftmost other major' minor' after' another (by simp; omega)
        simpa using least

theorem versionFrom_none {done rest : Text}
    (nothing : versionFrom (endsInDigit done) rest = none) {before major minor after : Text}
    (run : VersionRun (done ++ rest) before major minor after) : before.length < done.length := by
  induction rest generalizing done with
  | nil =>
    have lengths := congrArg List.length run.split
    simp only [List.append_nil, List.length_append, List.length_cons] at lengths
    omega
  | cons char rest inductionHypothesis =>
    rw [versionFrom, Option.or_eq_none_iff] at nothing
    have next : endsInDigit (done ++ [char]) = char.isDigit := by simp [endsInDigit]
    have split : done ++ char :: rest = done ++ [char] ++ rest := by simp
    have elsewhere := run.notHere nothing.1
    rw [split] at run
    have earlier := inductionHypothesis (next ▸ nothing.2) run
    rw [List.length_append, List.length_singleton] at earlier
    omega

/-- The search finds the leftmost version of the text, and finds nothing only in a text without
one. -/
theorem searchVersion_eq_some {text major minor : Text} :
    searchVersion text = some (major, minor) ↔ LeftmostVersion text major minor := by
  rw [searchVersion_eq]
  have start : versionFrom false text = versionFrom (endsInDigit []) text := rfl
  rw [start]
  constructor
  · intro found
    obtain ⟨before, after, run, leftmost⟩ := versionFrom_some found
    exact ⟨before, after, run, fun other major' minor' after' another =>
      leftmost other major' minor' after' another (Nat.zero_le _)⟩
  · rintro ⟨before, after, run, leftmost⟩
    cases found : versionFrom (endsInDigit []) text with
    | none => exact absurd (versionFrom_none found run) (Nat.not_lt_zero _)
    | some version =>
      obtain ⟨major', minor'⟩ := version
      obtain ⟨before', after', run', leftmost'⟩ := versionFrom_some found
      rw [List.nil_append] at run' leftmost'
      -- both are leftmost, so that they begin at one place
      have least := leftmost _ _ _ _ run'
      have least' := leftmost' _ _ _ _ run (Nat.zero_le _)
      exact congrArg some (run.unique run' (Nat.le_antisymm least' least))

/-! ## The decision -/

/-- The number that the digits write. -/
def decimal (digits : Text) : Nat :=
  Nat.ofDigits 10 (digits.reverse.map fun digit => digit.toNat - '0'.toNat)

theorem pythonInt_eq {digits : Text} (short : digits.length ≤ 4300) :
    pythonInt digits = .ok (decimal digits) := by
  rw [pythonInt, if_neg (Nat.not_lt.mpr short)]
  congr 1
  clear short
  induction digits using List.reverseRecOn with
  | nil => rfl
  | append_singleton digits digit inductionHypothesis =>
    rw [List.foldl_append, inductionHypothesis, decimal, decimal, List.reverse_append,
      List.reverse_singleton, List.singleton_append, List.map_cons, Nat.ofDigits_cons]
    simp only [List.foldl_cons, List.foldl_nil]
    exact Nat.add_comm _ _

/-- No run of digits is too long for `int`. -/
def ShortNumbers (text : Text) : Prop :=
  ∀ digits, digits <:+: text → (∀ digit ∈ digits, digit.isDigit = true) → digits.length ≤ 4300

theorem ShortNumbers.of_length {text : Text} (short : text.length ≤ 4300) : ShortNumbers text :=
  fun _ inside _ => inside.length_le.trans short

theorem VersionRun.short {text before major minor after : Text} (short : ShortNumbers text)
    (run : VersionRun (strip text) before major minor after) :
    major.length ≤ 4300 ∧ minor.length ≤ 4300 := by
  have whole := strip_inside text
  rw [run.split] at whole
  constructor
  · refine short major (List.IsInfix.trans ⟨before, '.' :: (minor ++ after), ?_⟩ whole) run.major.2
    simp
  · refine short minor (List.IsInfix.trans ⟨before ++ (major ++ ['.']), after, ?_⟩ whole)
      run.minor.2
    simp

/-- The versions the control path is verified on. -/
def IsSupported (major minor : Text) : Prop :=
  toLex (1, 80) ≤ toLex (decimal major, decimal minor)

theorem supportsActivePowerLimit_of_version {model firmware major minor : Text}
    (isM1 : ['M', '1'] <+: upper (strip model)) (short : ShortNumbers firmware)
    (leftmost : LeftmostVersion (strip firmware) major minor) :
    ∃ supported, supportsActivePowerLimit model firmware = .ok supported ∧
      (supported = true ↔ IsSupported major minor) := by
  obtain ⟨before, after, run, _⟩ := id leftmost
  obtain ⟨majorShort, minorShort⟩ := run.short short
  rw [supportsActivePowerLimit, if_neg (not_not.mpr isM1), searchVersion_eq_some.mpr leftmost]
  dsimp only
  rw [pythonInt_eq majorShort, pythonInt_eq minorShort]
  refine ⟨_, rfl, ?_⟩
  rw [decide_eq_true_iff, IsSupported, Prod.Lex.toLex_le_toLex, eq_comm]

theorem supportsActivePowerLimit_of_none {firmware : Text} (model : Text)
    (nothing : ∀ major minor, ¬ LeftmostVersion (strip firmware) major minor) :
    supportsActivePowerLimit model firmware = .ok false := by
  rw [supportsActivePowerLimit]
  split
  · rfl
  · cases found : searchVersion (strip firmware) with
    | none => rfl
    | some version => exact absurd (searchVersion_eq_some.mp found) (nothing _ _)

theorem supportsActivePowerLimit_of_model {model : Text} (firmware : Text)
    (other : ¬ ['M', '1'] <+: upper (strip model)) :
    supportsActivePowerLimit model firmware = .ok false := by
  rw [supportsActivePowerLimit, if_pos other]

theorem LeftmostVersion.unique {text major minor major' minor' : Text}
    (leftmost : LeftmostVersion text major minor)
    (leftmost' : LeftmostVersion text major' minor') : (major', minor') = (major, minor) := by
  have found := searchVersion_eq_some.mpr leftmost
  have found' := searchVersion_eq_some.mpr leftmost'
  exact Option.some.inj (found'.symm.trans found)

/-- The gate decides by the leftmost version. -/
theorem supportsActivePowerLimit_eq (model : Text) {firmware : Text}
    (short : ShortNumbers firmware) :
    ∃ supported, supportsActivePowerLimit model firmware = .ok supported ∧
      (supported = true ↔ ['M', '1'] <+: upper (strip model) ∧
        ∃ major minor, LeftmostVersion (strip firmware) major minor ∧
          IsSupported major minor) := by
  by_cases isM1 : ['M', '1'] <+: upper (strip model)
  · by_cases version : ∃ major minor, LeftmostVersion (strip firmware) major minor
    · obtain ⟨major, minor, leftmost⟩ := version
      obtain ⟨supported, returns, decided⟩ :=
        supportsActivePowerLimit_of_version isM1 short leftmost
      refine ⟨supported, returns, fun yes => ⟨isM1, major, minor, leftmost, decided.mp yes⟩, ?_⟩
      rintro ⟨_, major', minor', leftmost', enough⟩
      cases leftmost.unique leftmost'
      exact decided.mpr enough
    · simp only [not_exists] at version
      refine ⟨false, supportsActivePowerLimit_of_none model version, nofun, ?_⟩
      rintro ⟨_, major, minor, leftmost, _⟩
      exact absurd leftmost (version major minor)
  · exact ⟨false, supportsActivePowerLimit_of_model firmware isM1, nofun,
      fun supported => absurd supported.1 isM1⟩

/-! ## Upper case -/

/-- What `str.upper` does with a character.  Some have an upper case of several characters, and none
outside ASCII has one with an `M` or a `1` in it. -/
structure IsUpperCase (upperCase : Char → Text) : Prop where
  ascii : ∀ char : Char, char.toNat < 128 → upperCase char = [char.toUpper]
  others : ∀ char : Char, 128 ≤ char.toNat →
    upperCase char ≠ [] ∧ 'M' ∉ upperCase char ∧ '1' ∉ upperCase char

theorem toUpper_of_other {char : Char} (other : 128 ≤ char.toNat) : char.toUpper = char := by
  have noLower : ¬ ('a'.val ≤ char.val ∧ char.val ≤ 'z'.val) := by
    intro lower
    have small : char.toNat ≤ 122 := UInt32.le_iff_toNat_le.mp lower.2
    omega
  exact dif_neg noLower

theorem cons_prefix_upperCase {upperCase : Char → Text} (isUpper : IsUpperCase upperCase)
    {first : Char} (wanted : first = 'M' ∨ first = '1') (rest text : Text) (char : Char) :
    first :: rest <+: (char :: text).flatMap upperCase ↔
      char.toUpper = first ∧ rest <+: text.flatMap upperCase := by
  rw [List.flatMap_cons]
  by_cases ascii : char.toNat < 128
  · rw [isUpper.ascii char ascii, List.singleton_append, List.cons_prefix_cons, eq_comm]
  · obtain ⟨nonempty, noM, noOne⟩ := isUpper.others char (Nat.not_lt.mp ascii)
    obtain ⟨head, tail, spelled⟩ := List.exists_cons_of_ne_nil nonempty
    have notHead : first ≠ head := by
      rintro rfl
      rcases wanted with rfl | rfl
      · exact noM (spelled ▸ List.mem_cons_self)
      · exact noOne (spelled ▸ List.mem_cons_self)
    have notUpper : char.toUpper ≠ first := by
      rw [toUpper_of_other (Nat.not_lt.mp ascii)]
      rintro rfl
      rcases wanted with rfl | rfl
      · exact ascii (by decide)
      · exact ascii (by decide)
    rw [spelled, List.cons_append, List.cons_prefix_cons]
    exact ⟨fun begins => absurd begins.1 notHead, fun begins => absurd begins.1 notUpper⟩

/-- The gate sees the same model in the upper case of all scripts. -/
theorem prefix_upperCase {upperCase : Char → Text} (isUpper : IsUpperCase upperCase)
    (text : Text) :
    ['M', '1'] <+: text.flatMap upperCase ↔ ['M', '1'] <+: upper text := by
  cases text with
  | nil => exact Iff.rfl
  | cons first text =>
    rw [cons_prefix_upperCase isUpper (.inl rfl), upper, List.map_cons, List.cons_prefix_cons,
      eq_comm]
    refine and_congr_right fun _ => ?_
    cases text with
    | nil => exact Iff.rfl
    | cons second text =>
      rw [cons_prefix_upperCase isUpper (.inr rfl), List.map_cons, List.cons_prefix_cons, eq_comm]
      exact and_congr_right fun _ => ⟨fun _ => List.nil_prefix, fun _ => List.nil_prefix⟩

/-! ## The gate -/

/-- **The firmware gate.**  The gate opens for the models of the M1 family whose leftmost version is
at least 1.80, and a later version never closes it.  The regular expression finds that version for
any class of digits, and it does not matter how letters outside ASCII are put in upper case. -/
theorem supportsActivePowerLimit_gate (model : Text) {firmware : Text} (ascii : Ascii firmware)
    (short : ShortNumbers firmware) :
    (∃ supported, supportsActivePowerLimit model firmware = .ok supported ∧
      (supported = true ↔ ['M', '1'] <+: upper (strip model) ∧
        ∃ major minor, LeftmostVersion (strip firmware) major minor ∧
          IsSupported major minor)) ∧
    (∀ newer, ShortNumbers newer → ∀ major minor major' minor',
      LeftmostVersion (strip firmware) major minor → LeftmostVersion (strip newer) major' minor' →
      toLex (decimal major, decimal minor) ≤ toLex (decimal major', decimal minor') →
      supportsActivePowerLimit model firmware = .ok true →
      supportsActivePowerLimit model newer = .ok true) ∧
    (∀ digit, IsDigitClass digit →
      (search (versionPattern digit) (strip firmware)).map versionGroups =
        searchVersion (strip firmware)) ∧
    ∀ upperCase, IsUpperCase upperCase →
      (['M', '1'] <+: (strip model).flatMap upperCase ↔ ['M', '1'] <+: upper (strip model)) := by
  refine ⟨supportsActivePowerLimit_eq model short, ?_, ?_, ?_⟩
  · intro newer shortNewer major minor major' minor' leftmost leftmost' later supported
    obtain ⟨_, returns, decided⟩ := supportsActivePowerLimit_eq model short
    cases returns.symm.trans supported
    obtain ⟨isM1, _, _, leftmost'', enough⟩ := decided.mp rfl
    cases leftmost.unique leftmost''
    obtain ⟨_, returns', decided'⟩ :=
      supportsActivePowerLimit_of_version isM1 shortNewer leftmost'
    rw [returns', decided'.mpr (le_trans enough later)]
  · intro digit isClass
    exact search_version isClass fun char member =>
      ascii char ((strip_inside firmware).subset member)
  · exact fun upperCase isUpper => prefix_upperCase isUpper (strip model)

theorem supportsActivePowerLimit_gate_olderPrefix :
    (∃ supported,
      supportsActivePowerLimit " m1-e".toList "hw7 1.x V1.080.3".toList = .ok supported ∧
      (supported = true ↔ ['M', '1'] <+: upper (strip " m1-e".toList) ∧
        ∃ major minor, LeftmostVersion (strip "hw7 1.x V1.080.3".toList) major minor ∧
          IsSupported major minor)) ∧
      supportsActivePowerLimit " m1-e".toList "hw7 1.x V1.080.3".toList = .ok true := by
  have ascii : ∀ char ∈ "hw7 1.x V1.080.3".toList, char.toNat < 128 := by simp
  have short : ShortNumbers "hw7 1.x V1.080.3".toList := .of_length (by decide)
  exact ⟨(supportsActivePowerLimit_gate _ ascii short).1, by decide⟩

end FoxessGateway.Server
