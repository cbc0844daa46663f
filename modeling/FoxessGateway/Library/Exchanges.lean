import Mathlib.Data.List.Induction
import Mathlib.Tactic.Common

/-! # Requests and answers

Histories in which requests are made and answered, each under a key.  A request waits until an
answer comes under its key, or another request takes its place; so an answer goes to one request at
most.  A table of requests mirrors a history where it has what waits. -/

namespace Exchanges

variable {ω κ ν : Type*}

/-- What an event is to the requests. -/
inductive Part (κ ν : Type*) where
  | request (key : κ) (content : ν)
  | answer (key : κ)
  | neither

/-- The event is a request or an answer under the key. -/
def Part.Concerns (key : κ) : Part κ ν → Prop
  | request other _ => other = key
  | answer other => other = key
  | neither => False

/-- The request waits under the key: nothing has come under the key since it was made. -/
def Waits (part : ω → Part κ ν) (key : κ) (content : ν) (history : List ω) : Prop :=
  ∃ earlier request later, history = earlier ++ request :: later ∧
    part request = .request key content ∧ ∀ event ∈ later, ¬ (part event).Concerns key

variable {part : ω → Part κ ν} {key : κ} {content : ν} {history : List ω} {event : ω}

theorem not_waits_nil : ¬ Waits part key content [] := by
  rintro ⟨earlier, request, later, split, _⟩
  simp at split

/-- **One more event.**  What waits after it is the request that it is, or it concerns another key
and what waits has waited before. -/
theorem waits_concat :
    Waits part key content (history ++ [event]) ↔ part event = .request key content ∨
      ¬ (part event).Concerns key ∧ Waits part key content history := by
  constructor
  · rintro ⟨earlier, request, later, split, isRequest, quiet⟩
    rcases List.eq_nil_or_concat later with rfl | ⟨middle, last, rfl⟩
    · -- the event is the request
      obtain ⟨_, same⟩ := List.append_inj' split rfl
      cases same
      exact .inl isRequest
    · rw [List.concat_eq_append, ← List.cons_append, ← List.append_assoc] at split
      obtain ⟨rest, same⟩ := List.append_inj' split rfl
      cases same
      refine .inr ⟨quiet event (by simp), earlier, request, middle, rest, isRequest, ?_⟩
      exact fun other member => quiet other (by simp [member])
  · rintro (isRequest | ⟨beside, earlier, request, later, split, isRequest, quiet⟩)
    · exact ⟨history, event, [], rfl, isRequest, fun _ member => absurd member List.not_mem_nil⟩
    · refine ⟨earlier, request, later ++ [event], by simp [split], isRequest, ?_⟩
      intro other member
      rcases List.mem_append.mp member with before | last
      · exact quiet other before
      · rwa [List.mem_singleton.mp last]

/-- After an answer nothing waits until the next request. -/
theorem not_waits_answered {answer : ω} {between : List ω} (answers : part answer = .answer key)
    (unasked : ∀ event ∈ between, ∀ content, part event ≠ .request key content)
    (before : List ω) : ¬ Waits part key content (before ++ answer :: between) := by
  induction between using List.reverseRecOn with
  | nil =>
    rw [waits_concat, answers]
    rintro (isRequest | ⟨beside, _⟩)
    · cases isRequest
    · exact beside rfl
  | append_singleton between last inductionHypothesis =>
    rw [← List.cons_append, ← List.append_assoc, waits_concat]
    rintro (isRequest | ⟨_, waited⟩)
    · exact unasked last (by simp) content isRequest
    · exact inductionHypothesis (fun event member => unasked event (by simp [member])) waited

/-! ## Tables -/

/-- The entry is the request that waits under the key. -/
def Mirrors (part : ω → Part κ ν) (key : κ) (entry : Option ν) (history : List ω) : Prop :=
  ∀ content, entry = some content ↔ Waits part key content history

variable {entry : Option ν}

theorem Mirrors.nil : Mirrors part key none [] :=
  fun _ => iff_of_false (Option.some_ne_none _).symm not_waits_nil

theorem Mirrors.request (isRequest : part event = .request key content) :
    Mirrors part key (some content) (history ++ [event]) := by
  intro other
  rw [waits_concat, isRequest]
  constructor
  · intro same
    cases same
    exact .inl rfl
  · rintro (same | ⟨beside, _⟩)
    · cases same
      rfl
    · exact absurd rfl beside

theorem Mirrors.answer (isAnswer : part event = .answer key) :
    Mirrors part key none (history ++ [event]) :=
  fun _ => iff_of_false (Option.some_ne_none _).symm
    (not_waits_answered isAnswer (fun _ member => absurd member List.not_mem_nil) history)

/-- An event that does not concern the key changes nothing. -/
theorem Mirrors.beside (mirrors : Mirrors part key entry history)
    (beside : ¬ (part event).Concerns key) : Mirrors part key entry (history ++ [event]) := by
  intro content
  rw [mirrors content, waits_concat]
  constructor
  · exact fun waits => .inr ⟨beside, waits⟩
  · rintro (isRequest | ⟨_, waits⟩)
    · rw [isRequest] at beside
      exact absurd rfl beside
    · exact waits

theorem Mirrors.besides {later : List ω} (mirrors : Mirrors part key entry history)
    (beside : ∀ event ∈ later, ¬ (part event).Concerns key) :
    Mirrors part key entry (history ++ later) := by
  induction later using List.reverseRecOn with
  | nil => rwa [List.append_nil]
  | append_singleton later last inductionHypothesis =>
    rw [← List.append_assoc]
    have earlier := inductionHypothesis fun event member => beside event (by simp [member])
    exact earlier.beside (beside last (by simp))

end Exchanges
