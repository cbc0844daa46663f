import Mathlib.Data.List.Flatten
import Mathlib.Data.List.TakeWhile
import Mathlib.Tactic.Common

/-! # Search for a pattern with backtracking

The matches of a pattern stand in the order in which a backtracking matcher comes to them: the
first alternative before the second, and of a repetition the longest one first.  A search takes the
first match at the first place that has one.  A repetition in front of something that cannot begin
with one more of its elements is never given back (`tries_group_repeated`), which makes the search
for such a pattern a simple scan. -/

namespace Patterns

variable {α : Type*}

inductive Pattern (α : Type*) where
  /-- An element of a class. -/
  | one (accepts : α → Bool)
  /-- One element of a class, or as many as follow each other. -/
  | repeated (accepts : α → Bool)
  /-- Nothing, at the start of the text. -/
  | start
  | seq (first second : Pattern α)
  | either (first second : Pattern α)
  /-- The pattern, or else nothing. -/
  | maybe (inner : Pattern α)
  /-- The pattern, and what it matches is remembered under the number. -/
  | group (number : Nat) (inner : Pattern α)

/-- A place in the text: whether something stands before it, and what follows. -/
structure Place (α : Type*) where
  inside : Bool
  rest : List α

/-- Where the match ends, and the groups in it. -/
structure Match (α : Type*) where
  after : Place α
  groups : List (Nat × List α)

/-- A match and one that goes on from its end. -/
def Match.andThen (first second : Match α) : Match α :=
  ⟨second.after, first.groups ++ second.groups⟩

@[simp] theorem Match.andThen_nothing (place : Place α) :
    (⟨place, []⟩ : Match α).andThen = id := rfl

def Match.remember (found : Match α) (number : Nat) (text : List α) : Match α :=
  ⟨found.after, (number, text) :: found.groups⟩

def oneMatch (accepts : α → Bool) : List α → List (Match α)
  | [] => []
  | element :: rest => if accepts element then [⟨⟨true, rest⟩, []⟩] else []

def repeatedMatches (accepts : α → Bool) : List α → List (Match α)
  | [] => []
  | element :: rest =>
    if accepts element then repeatedMatches accepts rest ++ [⟨⟨true, rest⟩, []⟩] else []

@[simp] theorem oneMatch_nil (accepts : α → Bool) : oneMatch accepts [] = [] := rfl

@[simp] theorem oneMatch_cons (accepts : α → Bool) (element : α) (rest : List α) :
    oneMatch accepts (element :: rest) =
      if accepts element then [⟨⟨true, rest⟩, []⟩] else [] := rfl

theorem repeatedMatches_cons (accepts : α → Bool) (element : α) (rest : List α) :
    repeatedMatches accepts (element :: rest) =
      if accepts element then repeatedMatches accepts rest ++ [⟨⟨true, rest⟩, []⟩] else [] := rfl

/-- The matches of the pattern at the place, in the order in which they are tried. -/
def Pattern.tries : Pattern α → Place α → List (Match α)
  | .one accepts, place => oneMatch accepts place.rest
  | .repeated accepts, place => repeatedMatches accepts place.rest
  | .start, place => if place.inside then [] else [⟨place, []⟩]
  | .seq first second, place =>
    (first.tries place).flatMap fun found => (second.tries found.after).map found.andThen
  | .either first second, place => first.tries place ++ second.tries place
  | .maybe inner, place => inner.tries place ++ [⟨place, []⟩]
  | .group number inner, place =>
    (inner.tries place).map fun found =>
      found.remember number (place.rest.take (place.rest.length - found.after.rest.length))

namespace Pattern

variable (place : Place α)

@[simp] theorem tries_one (accepts : α → Bool) :
    (Pattern.one accepts).tries place = oneMatch accepts place.rest := rfl

@[simp] theorem tries_repeated (accepts : α → Bool) :
    (Pattern.repeated accepts).tries place = repeatedMatches accepts place.rest := rfl

@[simp] theorem tries_start :
    Pattern.start.tries place = if place.inside then [] else [⟨place, []⟩] := rfl

@[simp] theorem tries_seq (first second : Pattern α) : (Pattern.seq first second).tries place =
    (first.tries place).flatMap fun found => (second.tries found.after).map found.andThen := rfl

@[simp] theorem tries_either (first second : Pattern α) :
    (Pattern.either first second).tries place = first.tries place ++ second.tries place := rfl

@[simp] theorem tries_maybe (inner : Pattern α) :
    (Pattern.maybe inner).tries place = inner.tries place ++ [⟨place, []⟩] := rfl

@[simp] theorem tries_group (number : Nat) (inner : Pattern α) :
    (Pattern.group number inner).tries place = (inner.tries place).map fun found =>
      found.remember number
        (place.rest.take (place.rest.length - found.after.rest.length)) := rfl

end Pattern

def searchFrom (pattern : Pattern α) : Bool → List α → Option (Match α)
  | inside, [] => (pattern.tries ⟨inside, []⟩).head?
  | inside, element :: rest =>
    (pattern.tries ⟨inside, element :: rest⟩).head?.or (searchFrom pattern true rest)

/-- The first match at the first place of the text that has one. -/
def search (pattern : Pattern α) (text : List α) : Option (Match α) :=
  searchFrom pattern false text

/-! ## Repetitions that are not given back -/

/-- No match begins with an element of the class. -/
def Pattern.Refuses (pattern : Pattern α) (accepts : α → Bool) : Prop :=
  ∀ inside element rest, accepts element = true → pattern.tries ⟨inside, element :: rest⟩ = []

theorem refuses_one {accepts other : α → Bool}
    (apart : ∀ element, accepts element = true → other element = false) :
    (Pattern.one other).Refuses accepts := by
  intro inside element rest accepted
  simp [apart element accepted]

theorem Pattern.Refuses.seq {first : Pattern α} {accepts : α → Bool}
    (refuses : first.Refuses accepts) (second : Pattern α) :
    (Pattern.seq first second).Refuses accepts := by
  intro inside element rest accepted
  rw [Pattern.tries_seq, refuses inside element rest accepted]
  rfl

theorem refuses_repeated {accepts other : α → Bool}
    (apart : ∀ element, accepts element = true → other element = false) :
    (Pattern.repeated other).Refuses accepts := by
  intro inside element rest accepted
  simp [repeatedMatches_cons, apart element accepted]

theorem Pattern.Refuses.group {inner : Pattern α} {accepts : α → Bool}
    (refuses : inner.Refuses accepts) (number : Nat) :
    (Pattern.group number inner).Refuses accepts := by
  intro inside element rest accepted
  rw [Pattern.tries_group, refuses inside element rest accepted]
  rfl

/-- The longest repetition is tried first, and after any other stands one more of the elements. -/
theorem repeatedMatches_cases (accepts : α → Bool) (rest : List α) :
    (rest.takeWhile accepts = [] ∧ repeatedMatches accepts rest = []) ∨
      ∃ shorter, repeatedMatches accepts rest =
          ⟨⟨true, rest.dropWhile accepts⟩, []⟩ :: shorter ∧ rest.takeWhile accepts ≠ [] ∧
        ∀ found ∈ shorter, ∃ element later,
          found.after.rest = element :: later ∧ accepts element = true := by
  induction rest with
  | nil => exact .inl ⟨rfl, rfl⟩
  | cons element rest inductionHypothesis =>
    rw [repeatedMatches_cons]
    by_cases accepted : accepts element = true
    · right
      rw [if_pos accepted, List.takeWhile_cons_of_pos accepted, List.dropWhile_cons_of_pos accepted]
      obtain ⟨whole, none⟩ | ⟨shorter, tried, nonempty, more⟩ := inductionHypothesis
      · -- the element is the last one of its class
        have dropped : rest.dropWhile accepts = rest := by
          have both := List.takeWhile_append_dropWhile (p := accepts) (l := rest)
          rwa [whole] at both
        refine ⟨[], ?_, List.cons_ne_nil _ _, nofun⟩
        rw [none, dropped]
        rfl
      · refine ⟨shorter ++ [⟨⟨true, rest⟩, []⟩], by rw [tried, List.cons_append],
          List.cons_ne_nil _ _, ?_⟩
        intro found member
        rcases List.mem_append.mp member with short | last
        · exact more found short
        · rw [List.mem_singleton.mp last]
          cases rest with
          | nil => exact absurd rfl nonempty
          | cons next later =>
            refine ⟨next, later, rfl, ?_⟩
            by_contra other
            exact nonempty (List.takeWhile_cons_of_neg other)
    · left
      rw [if_neg accepted, List.takeWhile_cons_of_neg accepted]
      exact ⟨rfl, rfl⟩

/-- What the longest repetition leaves is what it does not take. -/
theorem take_takeWhile (accepts : α → Bool) (rest : List α) :
    rest.take (rest.length - (rest.dropWhile accepts).length) = rest.takeWhile accepts := by
  have both := List.takeWhile_append_dropWhile (p := accepts) (l := rest)
  have lengths := congrArg List.length both
  rw [List.length_append] at lengths
  conv_lhs => rw [← both]
  exact List.take_left' (by rw [both]; omega)

/-- A remembered repetition in front of what refuses its elements is as long as it can be. -/
theorem tries_group_repeated {accepts : α → Bool} {next : Pattern α}
    (refuses : next.Refuses accepts) (number : Nat) (place : Place α) :
    (Pattern.seq (.group number (.repeated accepts)) next).tries place =
      if place.rest.takeWhile accepts = [] then []
      else (next.tries ⟨true, place.rest.dropWhile accepts⟩).map
        (Match.remember · number (place.rest.takeWhile accepts)) := by
  simp only [Pattern.tries_seq, Pattern.tries_group, Pattern.tries_repeated]
  obtain ⟨whole, none⟩ | ⟨shorter, tried, nonempty, more⟩ :=
    repeatedMatches_cases accepts place.rest
  · rw [if_pos whole, none]
    rfl
  · rw [if_neg nonempty, tried, List.map_cons, List.flatMap_cons, take_takeWhile]
    -- a shorter repetition has an accepted element behind it, which `next` refuses
    have nothing : (shorter.map fun found => found.remember number
        (place.rest.take (place.rest.length - found.after.rest.length))).flatMap
          (fun found => (next.tries found.after).map found.andThen) = [] := by
      rw [List.flatMap_eq_nil_iff]
      intro found member
      obtain ⟨given, short, rfl⟩ := List.mem_map.mp member
      obtain ⟨element, later, rest, accepted⟩ := more given short
      have after : (given.remember number
          (place.rest.take (place.rest.length - given.after.rest.length))).after =
            ⟨given.after.inside, element :: later⟩ := by
        rw [← rest]
        rfl
      rw [after, refuses _ element later accepted]
      rfl
    rw [nothing, List.append_nil]
    rfl

/-- So is one in front of what always matches, where only the first match counts. -/
theorem first_group_repeated (accepts : α → Bool) {next : Pattern α}
    (always : ∀ place, next.tries place ≠ []) (number : Nat) (place : Place α) :
    ((Pattern.seq (.group number (.repeated accepts)) next).tries place).head? =
      if place.rest.takeWhile accepts = [] then none
      else (next.tries ⟨true, place.rest.dropWhile accepts⟩).head?.map
        (Match.remember · number (place.rest.takeWhile accepts)) := by
  simp only [Pattern.tries_seq, Pattern.tries_group, Pattern.tries_repeated]
  obtain ⟨whole, none⟩ | ⟨shorter, tried, nonempty, _⟩ :=
    repeatedMatches_cases accepts place.rest
  · rw [if_pos whole, none]
    rfl
  · rw [if_neg nonempty, tried, List.map_cons, List.flatMap_cons, take_takeWhile]
    -- the longest repetition is tried first, and `next` matches after it
    obtain ⟨found, others, isTried⟩ :=
      List.exists_cons_of_ne_nil (always ⟨true, place.rest.dropWhile accepts⟩)
    change (List.map _ (next.tries ⟨true, place.rest.dropWhile accepts⟩) ++ _).head? = _
    rw [isTried]
    rfl

theorem tries_maybe_ne_nil (inner : Pattern α) (place : Place α) :
    (Pattern.maybe inner).tries place ≠ [] := by
  simp

theorem tries_start_seq (next : Pattern α) (rest : List α) :
    (Pattern.seq .start next).tries ⟨false, rest⟩ = next.tries ⟨false, rest⟩ := by
  simp

theorem tries_start_seq_inside (next : Pattern α) (rest : List α) :
    (Pattern.seq .start next).tries ⟨true, rest⟩ = [] := by
  simp

theorem tries_one_seq {accepts : α → Bool} (next : Pattern α) (inside : Bool) {element : α}
    (rest : List α) (accepted : accepts element = true) :
    (Pattern.seq (.one accepts) next).tries ⟨inside, element :: rest⟩ =
      next.tries ⟨true, rest⟩ := by
  simp [accepted]

theorem tries_one_seq_absent {accepts : α → Bool} (next : Pattern α) {place : Place α}
    (absent : ∀ element ∈ place.rest.head?, accepts element = false) :
    (Pattern.seq (.one accepts) next).tries place = [] := by
  obtain ⟨inside, rest⟩ := place
  cases rest with
  | nil => simp
  | cons element rest =>
    have refused := absent element rfl
    simp [refused]

/-- An element that may be left out, in front of what refuses it. -/
theorem tries_maybe_one {accepts : α → Bool} {next : Pattern α} (refuses : next.Refuses accepts)
    (inside : Bool) {element : α} (rest : List α) (accepted : accepts element = true) :
    (Pattern.seq (.maybe (.one accepts)) next).tries ⟨inside, element :: rest⟩ =
      next.tries ⟨true, rest⟩ := by
  simp [accepted, refuses inside element rest accepted]

theorem tries_maybe_one_absent {accepts : α → Bool} (next : Pattern α) {place : Place α}
    (absent : ∀ element ∈ place.rest.head?, accepts element = false) :
    (Pattern.seq (.maybe (.one accepts)) next).tries place = next.tries place := by
  obtain ⟨inside, rest⟩ := place
  cases rest with
  | nil => simp
  | cons element rest =>
    have refused := absent element rfl
    simp [refused]

end Patterns
