import Mathlib.Data.List.Induction
import Mathlib.Tactic.Common

/-! # Runs and their traces

A machine takes an action and shows what it does.  Properties of whole runs are proved by
one induction, `run_invariant`, in which the invariant may speak of everything shown so
far, and `run_induction`, its form for a property that rests on others; `Justified` says that
everything in a trace was shown for a reason. -/

namespace Runs

variable {σ α ω : Type*}

/-- `machine state action` is the next state and what the step shows, or nothing where the
action is not possible. -/
abbrev Machine (σ α ω : Type*) := σ → α → Option (σ × List ω)

def run (machine : Machine σ α ω) : σ → List α → Option (σ × List ω)
  | state, [] => some (state, [])
  | state, action :: actions =>
    match machine state action with
    | none => none
    | some (next, shown) =>
      match run machine next actions with
      | none => none
      | some (final, later) => some (final, shown ++ later)

variable {machine : Machine σ α ω}

theorem run_nil_eq_some {state final : σ} {trace : List ω} :
    run machine state [] = some (final, trace) ↔ state = final ∧ [] = trace := by
  constructor
  · intro ran
    cases ran
    exact ⟨rfl, rfl⟩
  · rintro ⟨rfl, rfl⟩
    rfl

theorem run_cons_eq_some {state final : σ} {action : α} {actions : List α} {trace : List ω} :
    run machine state (action :: actions) = some (final, trace) ↔
      ∃ next shown later, machine state action = some (next, shown) ∧
        run machine next actions = some (final, later) ∧ trace = shown ++ later := by
  constructor
  · intro ran
    rw [run] at ran
    split at ran
    · cases ran
    · rename_i next shown stepped
      split at ran
      · cases ran
      · rename_i final later continued
        cases ran
        exact ⟨next, shown, later, stepped, continued, rfl⟩
  · rintro ⟨next, shown, later, stepped, continued, rfl⟩
    rw [run, stepped]
    dsimp only
    rw [continued]

theorem run_step {state next final : σ} {action : α} {actions : List α} {shown later : List ω}
    (stepped : machine state action = some (next, shown))
    (ran : run machine next actions = some (final, later)) :
    run machine state (action :: actions) = some (final, shown ++ later) :=
  run_cons_eq_some.mpr ⟨next, shown, later, stepped, ran, rfl⟩

theorem run_trans {state middle final : σ} {first later : List α} {before after : List ω}
    (ran : run machine state first = some (middle, before))
    (continued : run machine middle later = some (final, after)) :
    run machine state (first ++ later) = some (final, before ++ after) := by
  induction first generalizing state before with
  | nil =>
    obtain ⟨rfl, rfl⟩ := run_nil_eq_some.mp ran
    exact continued
  | cons action first inductionHypothesis =>
    obtain ⟨next, shown, rest, stepped, remaining, rfl⟩ := run_cons_eq_some.mp ran
    rw [List.append_assoc]
    exact run_step stepped (inductionHypothesis remaining)

theorem run_append_eq_some {state final : σ} {first later : List α} {trace : List ω}
    (ran : run machine state (first ++ later) = some (final, trace)) :
    ∃ middle before after, run machine state first = some (middle, before) ∧
      run machine middle later = some (final, after) ∧ trace = before ++ after := by
  induction first generalizing state trace with
  | nil => exact ⟨state, [], trace, rfl, ran, rfl⟩
  | cons action first inductionHypothesis =>
    obtain ⟨next, shown, rest, stepped, remaining, rfl⟩ := run_cons_eq_some.mp ran
    obtain ⟨middle, before, after, reached, continued, rfl⟩ := inductionHypothesis remaining
    exact ⟨middle, shown ++ before, after, run_step stepped reached, continued,
      (List.append_assoc _ _ _).symm⟩

/-- **Invariants of runs.**  The invariant speaks of the state and of the trace up to it. -/
theorem run_invariant {invariant : σ → List ω → Prop}
    (preserved : ∀ {state history action next shown}, invariant state history →
      machine state action = some (next, shown) → invariant next (history ++ shown))
    {state final : σ} {actions : List α} {history trace : List ω}
    (initially : invariant state history)
    (ran : run machine state actions = some (final, trace)) :
    invariant final (history ++ trace) := by
  induction actions generalizing state history trace with
  | nil =>
    obtain ⟨rfl, rfl⟩ := run_nil_eq_some.mp ran
    rwa [List.append_nil]
  | cons action actions inductionHypothesis =>
    obtain ⟨next, shown, later, stepped, continued, rfl⟩ := run_cons_eq_some.mp ran
    rw [← List.append_assoc]
    exact inductionHypothesis (preserved initially stepped) continued

theorem run_concat {initial state next : σ} {actions : List α} {action : α}
    {history shown : List ω} (ran : run machine initial actions = some (state, history))
    (stepped : machine state action = some (next, shown)) :
    run machine initial (actions ++ [action]) = some (next, history ++ shown) := by
  have last : run machine state [action] = some (next, shown ++ []) := run_step stepped rfl
  rw [List.append_nil] at last
  exact run_trans ran last

/-- The step may use that the run before it is one: what other invariants say of it holds there. -/
theorem run_induction {initial : σ} {property : σ → List ω → Prop}
    (kept : ∀ {actions state history action next shown},
      run machine initial actions = some (state, history) → property state history →
      machine state action = some (next, shown) → property next (history ++ shown))
    (initially : property initial []) {actions : List α} {final : σ} {trace : List ω}
    (ran : run machine initial actions = some (final, trace)) : property final trace := by
  let reached : σ → List ω → Prop := fun state history =>
    (∃ actions, run machine initial actions = some (state, history)) ∧ property state history
  have all : reached final ([] ++ trace) := by
    refine run_invariant ?_ ⟨⟨[], rfl⟩, initially⟩ ran
    rintro state history action next shown ⟨⟨before, ranBefore⟩, holds⟩ stepped
    exact ⟨⟨before ++ [action], run_concat ranBefore stepped⟩, kept ranBefore holds stepped⟩
  exact all.2

/-- An invariant of the state alone. -/
theorem run_preserves (invariant : σ → Prop)
    (preserved : ∀ {state action next shown}, invariant state →
      machine state action = some (next, shown) → invariant next)
    {state final : σ} {actions : List α} {trace : List ω} (initially : invariant state)
    (ran : run machine state actions = some (final, trace)) : invariant final := by
  let ofState : σ → List ω → Prop := fun state _ => invariant state
  have kept : ofState final ([] ++ trace) := run_invariant preserved initially ran
  exact kept

/-! ## Conditions on the steps -/

/-- Every step of the run is taken in a state in which the condition allows its action. -/
def Along (machine : Machine σ α ω) (condition : σ → α → Prop) : σ → List α → Prop
  | _, [] => True
  | state, action :: actions => condition state action ∧
      ∀ next shown, machine state action = some (next, shown) → Along machine condition next actions

/-- The property holds in the state and in every state that the actions lead to. -/
def Throughout (machine : Machine σ α ω) (property : σ → Prop) : σ → List α → Prop
  | state, [] => property state
  | state, action :: actions => property state ∧
      ∀ next shown, machine state action = some (next, shown) →
        Throughout machine property next actions

/-- Where the condition keeps an invariant, every step meets what follows from the two. -/
theorem Along.of_invariant {condition property : σ → α → Prop} (invariant : σ → Prop)
    (kept : ∀ {state action next shown}, invariant state → condition state action →
      machine state action = some (next, shown) → invariant next)
    (implies : ∀ {state action}, invariant state → condition state action → property state action)
    {state : σ} {actions : List α} (initially : invariant state)
    (within : Along machine condition state actions) : Along machine property state actions := by
  induction actions generalizing state with
  | nil => trivial
  | cons action actions inductionHypothesis =>
    refine ⟨implies initially within.1, fun next shown stepped => ?_⟩
    exact inductionHypothesis (kept initially within.1 stepped) (within.2 next shown stepped)

theorem Along.and {condition other : σ → α → Prop} {state : σ} {actions : List α}
    (within : Along machine condition state actions)
    (withinOther : Along machine other state actions) :
    Along machine (fun state action => condition state action ∧ other state action) state
      actions := by
  induction actions generalizing state with
  | nil => trivial
  | cons action actions inductionHypothesis =>
    refine ⟨⟨within.1, withinOther.1⟩, fun next shown stepped => ?_⟩
    exact inductionHypothesis (within.2 next shown stepped) (withinOther.2 next shown stepped)

/-- A condition on the actions alone. -/
theorem Along.of_forall {condition : σ → α → Prop} {state : σ} {actions : List α}
    (holds : ∀ state, ∀ action ∈ actions, condition state action) :
    Along machine condition state actions := by
  induction actions generalizing state with
  | nil => trivial
  | cons action actions inductionHypothesis =>
    refine ⟨holds state action List.mem_cons_self, fun next shown stepped => ?_⟩
    exact inductionHypothesis fun later other member =>
      holds later other (List.mem_cons_of_mem _ member)

theorem Along.append {condition : σ → α → Prop} {state : σ} {actions later : List α}
    (within : Along machine condition state actions)
    (after : ∀ middle trace, run machine state actions = some (middle, trace) →
      Along machine condition middle later) :
    Along machine condition state (actions ++ later) := by
  induction actions generalizing state with
  | nil => exact after state [] rfl
  | cons action actions inductionHypothesis =>
    refine ⟨within.1, fun next shown stepped => ?_⟩
    apply inductionHypothesis (within.2 next shown stepped)
    intro middle trace continued
    exact after middle _ (run_step stepped continued)

/-- The step that comes after a run. -/
theorem Along.after_run {condition : σ → α → Prop} {state middle : σ} {actions later : List α}
    {trace : List ω} (within : Along machine condition state (actions ++ later))
    (ran : run machine state actions = some (middle, trace)) :
    Along machine condition middle later := by
  induction actions generalizing state trace with
  | nil =>
    obtain ⟨rfl, _⟩ := run_nil_eq_some.mp ran
    exact within
  | cons action actions inductionHypothesis =>
    obtain ⟨next, shown, _, stepped, continued, _⟩ := run_cons_eq_some.mp ran
    exact inductionHypothesis (within.2 next shown stepped) continued

theorem Throughout.here {property : σ → Prop} {state : σ} {actions : List α}
    (holds : Throughout machine property state actions) : property state := by
  cases actions with
  | nil => exact holds
  | cons action actions => exact holds.1

/-- A property that steps keep exactly where they meet a condition holds throughout a run exactly
where every step of the run meets it. -/
theorem throughout_iff_along {condition : σ → α → Prop} {property : σ → Prop}
    (kept : ∀ {state action next shown}, property state → condition state action →
      machine state action = some (next, shown) → property next)
    (needed : ∀ {state action}, property state →
      (∀ next shown, machine state action = some (next, shown) → property next) →
      condition state action)
    {state : σ} {actions : List α} (initially : property state) :
    Throughout machine property state actions ↔ Along machine condition state actions := by
  induction actions generalizing state with
  | nil => exact iff_of_true initially trivial
  | cons action actions inductionHypothesis =>
    constructor
    · rintro ⟨_, later⟩
      refine ⟨needed initially fun next shown stepped => (later next shown stepped).here, ?_⟩
      intro next shown stepped
      have holds := later next shown stepped
      exact (inductionHypothesis holds.here).mp holds
    · rintro ⟨within, later⟩
      refine ⟨initially, fun next shown stepped => ?_⟩
      exact (inductionHypothesis (kept initially within stepped)).mpr (later next shown stepped)

/-- An invariant of the state and of the trace up to it, that the steps within the condition
preserve. -/
theorem run_invariant_along {condition : σ → α → Prop} {invariant : σ → List ω → Prop}
    (preserved : ∀ {state history action next shown}, invariant state history →
      condition state action → machine state action = some (next, shown) →
      invariant next (history ++ shown))
    {state final : σ} {actions : List α} {history trace : List ω}
    (initially : invariant state history) (within : Along machine condition state actions)
    (ran : run machine state actions = some (final, trace)) :
    invariant final (history ++ trace) := by
  induction actions generalizing state history trace with
  | nil =>
    obtain ⟨rfl, rfl⟩ := run_nil_eq_some.mp ran
    rwa [List.append_nil]
  | cons action actions inductionHypothesis =>
    obtain ⟨next, shown, later, stepped, continued, rfl⟩ := run_cons_eq_some.mp ran
    rw [← List.append_assoc]
    exact inductionHypothesis (preserved initially within.1 stepped)
      (within.2 next shown stepped) continued

/-- An invariant of the state alone, that the steps within the condition preserve. -/
theorem run_preserves_along {condition : σ → α → Prop} (invariant : σ → Prop)
    (preserved : ∀ {state action next shown}, invariant state → condition state action →
      machine state action = some (next, shown) → invariant next)
    {state final : σ} {actions : List α} {trace : List ω} (initially : invariant state)
    (within : Along machine condition state actions)
    (ran : run machine state actions = some (final, trace)) : invariant final := by
  let ofState : σ → List ω → Prop := fun state _ => invariant state
  have kept : ofState final ([] ++ trace) := run_invariant_along preserved initially within ran
  exact kept

/-! ## Justified traces -/

/-- Everything shown has its reason in what was shown before it. -/
def Justified (because : List ω → ω → Prop) (trace : List ω) : Prop :=
  ∀ before shown after, trace = before ++ shown :: after → because before shown

variable {because : List ω → ω → Prop}

theorem justified_nil : Justified because [] := by
  intro before shown after split
  simp at split

theorem justified_concat {trace : List ω} {shown : ω} :
    Justified because (trace ++ [shown]) ↔ Justified because trace ∧ because trace shown := by
  constructor
  · intro justified
    refine ⟨fun before earlier after split => ?_, justified trace shown [] rfl⟩
    exact justified before earlier (after ++ [shown]) (by rw [split]; simp)
  · rintro ⟨justified, reason⟩ before other after split
    rcases List.eq_nil_or_concat after with rfl | ⟨earlier, last, rfl⟩
    · obtain ⟨rfl, same⟩ := List.append_inj' split rfl
      obtain rfl : shown = other := by simpa using same
      exact reason
    · rw [List.concat_eq_append, ← List.cons_append, ← List.append_assoc] at split
      obtain ⟨inner, _⟩ := List.append_inj' split rfl
      exact justified before other earlier inner

/-- What needs no reason may come after. -/
theorem Justified.append {before later : List ω} (justified : Justified because before)
    (free : ∀ shown ∈ later, ∀ history, because history shown) :
    Justified because (before ++ later) := by
  induction later using List.reverseRecOn with
  | nil => rwa [List.append_nil]
  | append_singleton later last inductionHypothesis =>
    rw [← List.append_assoc]
    have earlier := inductionHypothesis fun shown member => free shown (by simp [member])
    exact justified_concat.mpr ⟨earlier, free last (by simp) _⟩

theorem Justified.of_append {before after : List ω}
    (justified : Justified because (before ++ after)) :
    Justified because before := by
  intro early shown late split
  exact justified early shown (late ++ after) (by rw [split]; simp)

end Runs
