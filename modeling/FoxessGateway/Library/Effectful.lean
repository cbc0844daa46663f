import Mathlib.Tactic.Common

/-! # Actions with effects

An `Action` changes a state, performs effects in order and returns or raises.  A raise keeps
the state and the effects so far: nothing is rolled back.  The rules below are for total
correctness (`Completes`) and for frame conditions (`Keeps`).
-/

namespace Effectful

variable {σ ε χ α β τ : Type}

structure Outcome (σ ε χ α : Type) where
  state : σ
  effects : List ε
  value : Except χ α

structure Action (σ ε χ α : Type) where
  run : σ → Outcome σ ε χ α

namespace Action

protected def pure (value : α) : Action σ ε χ α := ⟨fun state => ⟨state, [], .ok value⟩⟩

protected def bind (action : Action σ ε χ α) (next : α → Action σ ε χ β) : Action σ ε χ β where
  run state :=
    match (action.run state).value with
    | .ok value =>
      let later := (next value).run (action.run state).state
      ⟨later.state, (action.run state).effects ++ later.effects, later.value⟩
    -- what was changed and shown before the raise stays
    | .error raised => ⟨(action.run state).state, (action.run state).effects, .error raised⟩

instance : Monad (Action σ ε χ) where
  pure := Action.pure
  bind := Action.bind

/-- The current state. -/
def get : Action σ ε χ σ := ⟨fun state => ⟨state, [], .ok state⟩⟩

def modify (change : σ → σ) : Action σ ε χ Unit := ⟨fun state => ⟨change state, [], .ok ()⟩⟩

def perform (effect : ε) : Action σ ε χ Unit := ⟨fun state => ⟨state, [effect], .ok ()⟩⟩

def raise (raised : χ) : Action σ ε χ α := ⟨fun state => ⟨state, [], .error raised⟩⟩

/-- Do something only where the condition holds. -/
def doWhen (condition : Prop) [Decidable condition] (action : Action σ ε χ Unit) :
    Action σ ε χ Unit :=
  if condition then action else pure ()

/-- A computation that returns or raises and does nothing else. -/
def attempt (value : Except χ α) : Action σ ε χ α := ⟨fun state => ⟨state, [], value⟩⟩

/-- Run an action on a part of the state, and show its effects as effects of the whole. -/
def onPart {ε' : Type} (part : τ) (put : τ → σ → σ) (shown : ε' → ε) (action : Action τ ε' χ α) :
    Action σ ε χ α where
  run state :=
    let outcome := action.run part
    ⟨put outcome.state state, outcome.effects.map shown, outcome.value⟩

@[simp] theorem run_pure (value : α) (state : σ) :
    (Pure.pure value : Action σ ε χ α).run state = ⟨state, [], .ok value⟩ := rfl

@[simp] theorem run_modify (change : σ → σ) (state : σ) :
    (modify change : Action σ ε χ Unit).run state = ⟨change state, [], .ok ()⟩ := rfl

@[simp] theorem run_perform (effect : ε) (state : σ) :
    (perform effect : Action σ ε χ Unit).run state = ⟨state, [effect], .ok ()⟩ := rfl

@[simp] theorem run_attempt (value : Except χ α) (state : σ) :
    (attempt value : Action σ ε χ α).run state = ⟨state, [], value⟩ := rfl

theorem run_bind_ok {action : Action σ ε χ α} {next : α → Action σ ε χ β} {state : σ} {value : α}
    (returned : (action.run state).value = .ok value) :
    (action >>= next).run state =
      ⟨((next value).run (action.run state).state).state,
        (action.run state).effects ++ ((next value).run (action.run state).state).effects,
        ((next value).run (action.run state).state).value⟩ := by
  change (Action.bind action next).run state = _
  simp only [Action.bind, returned]

theorem run_bind_error {action : Action σ ε χ α} {next : α → Action σ ε χ β} {state : σ}
    {raised : χ} (failed : (action.run state).value = .error raised) :
    (action >>= next).run state =
      ⟨(action.run state).state, (action.run state).effects, .error raised⟩ := by
  change (Action.bind action next).run state = _
  simp only [Action.bind, failed]

@[simp] theorem run_pure_bind (value : α) (next : α → Action σ ε χ β) (state : σ) :
    (Pure.pure value >>= next).run state = (next value).run state := rfl

@[simp] theorem run_get_bind (next : σ → Action σ ε χ β) (state : σ) :
    (get >>= next).run state = (next state).run state := rfl

@[simp] theorem run_modify_bind (change : σ → σ) (next : Unit → Action σ ε χ β) (state : σ) :
    (modify change >>= next).run state = (next ()).run (change state) := rfl

@[simp] theorem run_perform_bind (effect : ε) (next : Unit → Action σ ε χ β) (state : σ) :
    (perform effect >>= next).run state =
      ⟨((next ()).run state).state, effect :: ((next ()).run state).effects,
        ((next ()).run state).value⟩ := rfl

@[simp] theorem run_attempt_ok_bind (value : α) (next : α → Action σ ε χ β) (state : σ) :
    (attempt (.ok value) >>= next).run state = (next value).run state := rfl

@[simp] theorem run_attempt_error_bind (raised : χ) (next : α → Action σ ε χ β) (state : σ) :
    (attempt (.error raised) >>= next).run state = ⟨state, [], .error raised⟩ := rfl

/-- An action either raises in its first part or goes on with what that part returned. -/
theorem run_bind_cases (action : Action σ ε χ α) (next : α → Action σ ε χ β) (state : σ) :
    (∃ raised, (action >>= next).run state =
        ⟨(action.run state).state, (action.run state).effects, .error raised⟩) ∨
      ∃ value, (action.run state).value = .ok value ∧ (action >>= next).run state =
        ⟨((next value).run (action.run state).state).state,
          (action.run state).effects ++ ((next value).run (action.run state).state).effects,
          ((next value).run (action.run state).state).value⟩ := by
  cases returned : (action.run state).value with
  | ok value => exact .inr ⟨value, rfl, run_bind_ok returned⟩
  | error raised => exact .inl ⟨raised, run_bind_error returned⟩

theorem run_bind_pure (action : Action σ ε χ Unit) (state : σ) :
    (action >>= fun _ => Pure.pure ()).run state = action.run state := by
  cases ran : action.run state with
  | mk after effects value =>
    cases value with
    | ok _ =>
      rw [run_bind_ok (by rw [ran]), ran, run_pure, List.append_nil]
    | error raised => rw [run_bind_error (by rw [ran]), ran]

/-- Returning another value changes neither the state nor the effects. -/
theorem run_bind_const (action : Action σ ε χ α) (value : β) (state : σ) :
    ((action >>= fun _ => Pure.pure value).run state).state = (action.run state).state ∧
      ((action >>= fun _ => Pure.pure value).run state).effects = (action.run state).effects := by
  obtain ⟨raised, ran⟩ | ⟨returned, _, ran⟩ :=
    run_bind_cases action (fun _ => (Pure.pure value : Action σ ε χ β)) state
  · rw [ran]
    exact ⟨rfl, rfl⟩
  · rw [ran]
    exact ⟨rfl, List.append_nil _⟩

/-! ## Total correctness -/

/-- From a state with `before` the action returns, and `after` holds of what it returns and
leaves. -/
def Completes (before : σ → Prop) (action : Action σ ε χ α) (after : α → σ → Prop) : Prop :=
  ∀ state, before state →
    ∃ value, (action.run state).value = .ok value ∧ after value (action.run state).state

variable {before : σ → Prop} {middle : α → σ → Prop} {after : β → σ → Prop}

theorem Completes.bind {action : Action σ ε χ α} {next : α → Action σ ε χ β}
    (first : Completes before action middle)
    (second : ∀ value, Completes (middle value) (next value) after) :
    Completes before (action >>= next) after := by
  intro state holds
  obtain ⟨value, returned, reached⟩ := first state holds
  obtain ⟨result, finished, final⟩ := second value _ reached
  rw [run_bind_ok returned]
  exact ⟨result, finished, final⟩

/-- Two actions that keep an invariant, one after the other. -/
theorem Completes.andThen {action : Action σ ε χ α} {next : α → Action σ ε χ β}
    (first : Completes before action (fun _ => before))
    (second : ∀ value, Completes before (next value) after) :
    Completes before (action >>= next) after := first.bind second

theorem Completes.pure {value : β} (holds : ∀ state, before state → after value state) :
    Completes before (Pure.pure value : Action σ ε χ β) after :=
  fun state first => ⟨value, rfl, holds state first⟩

/-- The state is read and the rest goes on from it. -/
theorem Completes.readBind {next : σ → Action σ ε χ β}
    (completes : ∀ value, before value → Completes before (next value) after) :
    Completes before (Action.get >>= next) after :=
  fun state holds => completes state holds state holds

theorem Completes.modify {change : σ → σ} {final : Unit → σ → Prop}
    (holds : ∀ state, before state → final () (change state)) :
    Completes before (modify change : Action σ ε χ Unit) final :=
  fun state first => ⟨(), rfl, holds state first⟩

theorem Completes.perform {effect : ε} :
    Completes before (perform effect : Action σ ε χ Unit) (fun _ => before) :=
  fun _ holds => ⟨(), rfl, holds⟩

theorem Completes.attempt {result : Except χ α} (value : α) (returned : result = .ok value) :
    Completes before (attempt result : Action σ ε χ α)
      (fun found state => found = value ∧ before state) :=
  fun _ holds => ⟨value, returned, rfl, holds⟩

theorem Completes.ite {condition : Prop} [Decidable condition] {left right : Action σ ε χ β}
    (isTrue : condition → Completes before left after)
    (isFalse : ¬ condition → Completes before right after) :
    Completes before (if condition then left else right) after := by
  split
  · exact isTrue ‹_›
  · exact isFalse ‹_›

theorem Completes.doWhen {condition : Prop} [Decidable condition] {action : Action σ ε χ Unit}
    {invariant : σ → Prop}
    (completes : condition → Completes invariant action (fun _ => invariant)) :
    Completes invariant (doWhen condition action) (fun _ => invariant) :=
  Completes.ite completes fun _ => Completes.pure fun _ holds => holds

theorem Completes.weaken {action : Action σ ε χ β} {weaker : β → σ → Prop}
    (completes : Completes before action after)
    (implies : ∀ value state, after value state → weaker value state) :
    Completes before action weaker := by
  intro state holds
  obtain ⟨value, returned, final⟩ := completes state holds
  exact ⟨value, returned, implies value _ final⟩

/-! ## Frame conditions -/

/-- The action leaves the part of the state that `view` shows as it is. -/
def Keeps (view : σ → τ) (action : Action σ ε χ α) : Prop :=
  ∀ state, view (action.run state).state = view state

variable {view : σ → τ}

theorem Keeps.bind {action : Action σ ε χ α} {next : α → Action σ ε χ β}
    (first : Keeps view action) (second : ∀ value, Keeps view (next value)) :
    Keeps view (action >>= next) := by
  intro state
  cases returned : (action.run state).value with
  | ok value =>
    rw [run_bind_ok returned]
    exact (second value _).trans (first state)
  | error raised =>
    rw [run_bind_error returned]
    exact first state

theorem Keeps.pure {value : α} : Keeps view (Pure.pure value : Action σ ε χ α) := fun _ => rfl

theorem Keeps.get : Keeps view (get : Action σ ε χ σ) := fun _ => rfl

theorem Keeps.perform {effect : ε} : Keeps view (perform effect : Action σ ε χ Unit) :=
  fun _ => rfl

theorem Keeps.attempt {value : Except χ α} : Keeps view (attempt value : Action σ ε χ α) :=
  fun _ => rfl

theorem Keeps.modify {change : σ → σ} (unchanged : ∀ state, view (change state) = view state) :
    Keeps view (modify change : Action σ ε χ Unit) := unchanged

theorem Keeps.ite {condition : Prop} [Decidable condition] {left right : Action σ ε χ α}
    (isTrue : Keeps view left) (isFalse : Keeps view right) :
    Keeps view (if condition then left else right) := by
  split
  · exact isTrue
  · exact isFalse

theorem Keeps.doWhen {condition : Prop} [Decidable condition] {action : Action σ ε χ Unit}
    (keeps : Keeps view action) : Keeps view (doWhen condition action) :=
  Keeps.ite keeps Keeps.pure

/-! ## Results and effects -/

/-- What the action returns, if it returns. -/
def Returns (returned : α → Prop) (action : Action σ ε χ α) : Prop :=
  ∀ state value, (action.run state).value = .ok value → returned value

/-- What effects the action may have. -/
def Shows (allowed : ε → Prop) (action : Action σ ε χ α) : Prop :=
  ∀ state, ∀ effect ∈ (action.run state).effects, allowed effect

variable {returned : β → Prop} {allowed : ε → Prop}

theorem Returns.pure {value : β} (holds : returned value) :
    Returns returned (Pure.pure value : Action σ ε χ β) := by
  intro state found same
  cases same
  exact holds

theorem Returns.raise {raised : χ} : Returns returned (raise raised : Action σ ε χ β) := by
  intro state found same
  cases same

theorem Returns.bind {action : Action σ ε χ α} {next : α → Action σ ε χ β}
    (later : ∀ value, Returns returned (next value)) : Returns returned (action >>= next) := by
  intro state found same
  obtain ⟨raised, ran⟩ | ⟨value, _, ran⟩ := run_bind_cases action next state
  · rw [ran] at same
    cases same
  · rw [ran] at same
    exact later value _ found same

theorem Returns.ite {condition : Prop} [Decidable condition] {left right : Action σ ε χ β}
    (isTrue : Returns returned left) (isFalse : Returns returned right) :
    Returns returned (if condition then left else right) := by
  split
  · exact isTrue
  · exact isFalse

theorem Shows.pure {value : α} : Shows allowed (Pure.pure value : Action σ ε χ α) :=
  fun _ _ member => nomatch member

theorem Shows.get : Shows allowed (get : Action σ ε χ σ) := fun _ _ member => nomatch member

theorem Shows.modify {change : σ → σ} : Shows allowed (modify change : Action σ ε χ Unit) :=
  fun _ _ member => nomatch member

theorem Shows.attempt {value : Except χ α} : Shows allowed (attempt value : Action σ ε χ α) :=
  fun _ _ member => nomatch member

theorem Shows.perform {effect : ε} (holds : allowed effect) :
    Shows allowed (perform effect : Action σ ε χ Unit) := by
  intro state shown member
  rw [run_perform, List.mem_singleton] at member
  rwa [member]

theorem Shows.bind {action : Action σ ε χ α} {next : α → Action σ ε χ β}
    (first : Shows allowed action) (second : ∀ value, Shows allowed (next value)) :
    Shows allowed (action >>= next) := by
  intro state shown member
  obtain ⟨raised, ran⟩ | ⟨value, _, ran⟩ := run_bind_cases action next state
  · rw [ran] at member
    exact first state shown member
  · rw [ran] at member
    rcases List.mem_append.mp member with early | late
    · exact first state shown early
    · exact second value _ shown late

/-- The action leaves what `view` shows as it is, and has only effects that are allowed. -/
structure Leaves (view : σ → τ) (allowed : ε → Prop) (action : Action σ ε χ α) : Prop where
  keeps : Keeps view action
  shows : Shows allowed action

theorem Leaves.bind {action : Action σ ε χ α} {next : α → Action σ ε χ β}
    (first : Leaves view allowed action) (second : ∀ value, Leaves view allowed (next value)) :
    Leaves view allowed (action >>= next) where
  keeps := first.keeps.bind fun value => (second value).keeps
  shows := first.shows.bind fun value => (second value).shows

theorem Leaves.pure {value : α} : Leaves view allowed (Pure.pure value : Action σ ε χ α) :=
  ⟨Keeps.pure, Shows.pure⟩

theorem Leaves.get : Leaves view allowed (get : Action σ ε χ σ) := ⟨Keeps.get, Shows.get⟩

theorem Leaves.attempt {value : Except χ α} :
    Leaves view allowed (attempt value : Action σ ε χ α) := ⟨Keeps.attempt, Shows.attempt⟩

theorem Leaves.modify {change : σ → σ} (unchanged : ∀ state, view (change state) = view state) :
    Leaves view allowed (modify change : Action σ ε χ Unit) :=
  ⟨Keeps.modify unchanged, Shows.modify⟩

theorem Leaves.perform {effect : ε} (holds : allowed effect) :
    Leaves view allowed (perform effect : Action σ ε χ Unit) := ⟨Keeps.perform, Shows.perform holds⟩

theorem Leaves.ite {condition : Prop} [Decidable condition] {left right : Action σ ε χ α}
    (isTrue : Leaves view allowed left) (isFalse : Leaves view allowed right) :
    Leaves view allowed (if condition then left else right) := by
  split
  · exact isTrue
  · exact isFalse

/-- What is computed from the part that is left alone is left alone. -/
theorem Leaves.coarsen {ρ : Type} {action : Action σ ε χ α} (leaves : Leaves view allowed action)
    (part : τ → ρ) : Leaves (fun state => part (view state)) allowed action :=
  ⟨fun state => congrArg part (leaves.keeps state), leaves.shows⟩

theorem Leaves.doWhen {condition : Prop} [Decidable condition] {action : Action σ ε χ Unit}
    (leaves : Leaves view allowed action) : Leaves view allowed (doWhen condition action) :=
  Leaves.ite leaves Leaves.pure

/-! ## Tracking -/

/-- The action changes what `view` shows, and has the effects that `seen` picks, as `step` says. -/
def Tracks (view : σ → τ) (seen : ε → Bool) (step : τ → τ × List ε) (action : Action σ ε χ α) :
    Prop :=
  ∀ state, view (action.run state).state = (step (view state)).1 ∧
    (action.run state).effects.filter seen = (step (view state)).2

/-- The action returns, from whatever state. -/
def Total (action : Action σ ε χ α) : Prop := ∀ state, ∃ value, (action.run state).value = .ok value

theorem Total.pure {value : α} : Total (Pure.pure value : Action σ ε χ α) := fun _ => ⟨value, rfl⟩

theorem Total.get : Total (get : Action σ ε χ σ) := fun state => ⟨state, rfl⟩

theorem Total.modify {change : σ → σ} : Total (modify change : Action σ ε χ Unit) :=
  fun _ => ⟨(), rfl⟩

theorem Total.perform {effect : ε} : Total (perform effect : Action σ ε χ Unit) :=
  fun _ => ⟨(), rfl⟩

theorem Total.bind {action : Action σ ε χ α} {next : α → Action σ ε χ β} (first : Total action)
    (second : ∀ value, Total (next value)) : Total (action >>= next) := by
  intro state
  obtain ⟨value, returned⟩ := first state
  rw [run_bind_ok returned]
  exact second value _

theorem Total.ite {condition : Prop} [Decidable condition] {left right : Action σ ε χ α}
    (isTrue : Total left) (isFalse : Total right) :
    Total (if condition then left else right) := by
  split
  · exact isTrue
  · exact isFalse

theorem Total.doWhen {condition : Prop} [Decidable condition] {action : Action σ ε χ Unit}
    (total : Total action) : Total (doWhen condition action) := Total.ite total Total.pure

variable {seen : ε → Bool} {step : τ → τ × List ε}

theorem filter_unseen {effects : List ε} (unseen : ∀ effect ∈ effects, seen effect = false) :
    effects.filter seen = [] := by
  apply List.filter_eq_nil_iff.mpr
  intro effect member
  rw [unseen effect member]
  exact Bool.false_ne_true

theorem Leaves.tracks {action : Action σ ε χ α} (leaves : Leaves view (seen · = false) action) :
    Tracks view seen (fun shown => (shown, [])) action :=
  fun state => ⟨leaves.keeps state, filter_unseen (leaves.shows state)⟩

/-- What comes after leaves the tracked part alone, whether or not it is reached. -/
theorem Tracks.thenLeaves {action : Action σ ε χ α} {next : α → Action σ ε χ β}
    (tracks : Tracks view seen step action)
    (leaves : ∀ value, Leaves view (seen · = false) (next value)) :
    Tracks view seen step (action >>= next) := by
  intro state
  obtain ⟨sameView, sameEffects⟩ := tracks state
  obtain ⟨raised, ran⟩ | ⟨value, _, ran⟩ := run_bind_cases action next state
  · rw [ran]
    exact ⟨sameView, sameEffects⟩
  · rw [ran, List.filter_append, filter_unseen ((leaves value).shows _), List.append_nil]
    exact ⟨((leaves value).keeps _).trans sameView, sameEffects⟩

/-- What comes before leaves the tracked part alone and does not raise. -/
theorem Tracks.leavesThen {action : Action σ ε χ α} {next : α → Action σ ε χ β}
    (leaves : Leaves view (seen · = false) action) (total : Total action)
    (tracks : ∀ value, Tracks view seen step (next value)) :
    Tracks view seen step (action >>= next) := by
  intro state
  obtain ⟨value, returned⟩ := total state
  rw [run_bind_ok returned, List.filter_append, filter_unseen (leaves.shows state), List.nil_append,
    ← leaves.keeps state]
  exact tracks value _

/-! ## What an action may do -/

variable {ρ : Type}

/-- `may` allows what the action does to the part that `view` shows together with the effects
that `seen` picks. -/
def Does (view : σ → τ) (seen : ε → Option ρ) (may : τ → τ → List ρ → Prop)
    (action : Action σ ε χ α) : Prop :=
  ∀ state, may (view state) (view (action.run state).state)
    ((action.run state).effects.filterMap seen)

variable {picked : ε → Option ρ} {may : τ → τ → List ρ → Prop}

theorem filterMap_unseen {effects : List ε} (unseen : ∀ effect ∈ effects, picked effect = none) :
    effects.filterMap picked = [] :=
  List.filterMap_eq_nil_iff.mpr unseen

/-- What leaves the part alone does nothing that is seen. -/
theorem Leaves.does {action : Action σ ε χ α} (leaves : Leaves view (picked · = none) action)
    (idle : ∀ part, may part part []) : Does view picked may action := by
  intro state
  rw [leaves.keeps state, filterMap_unseen (leaves.shows state)]
  exact idle _

/-- What comes before leaves the part alone; where it raises, nothing is done. -/
theorem Leaves.thenDoes {action : Action σ ε χ α} {next : α → Action σ ε χ β}
    (leaves : Leaves view (picked · = none) action) (idle : ∀ part, may part part [])
    (does : ∀ value, Does view picked may (next value)) :
    Does view picked may (action >>= next) := by
  intro state
  obtain ⟨raised, ran⟩ | ⟨value, _, ran⟩ := run_bind_cases action next state
  · rw [ran]
    exact leaves.does idle state
  · rw [ran, List.filterMap_append, filterMap_unseen (leaves.shows state), List.nil_append,
      ← leaves.keeps state]
    exact does value _

/-- What comes before leaves the part alone and does not raise. -/
theorem Leaves.totalThenDoes {action : Action σ ε χ α} {next : α → Action σ ε χ β}
    (leaves : Leaves view (picked · = none) action) (total : Total action)
    (does : ∀ value, Does view picked may (next value)) :
    Does view picked may (action >>= next) := by
  intro state
  obtain ⟨value, returned⟩ := total state
  rw [run_bind_ok returned, List.filterMap_append, filterMap_unseen (leaves.shows state),
    List.nil_append, ← leaves.keeps state]
  exact does value _

/-- The same from the states of an invariant. -/
def DoesWithin (invariant : σ → Prop) (view : σ → τ) (seen : ε → Option ρ)
    (may : τ → τ → List ρ → Prop) (action : Action σ ε χ α) : Prop :=
  ∀ state, invariant state → may (view state) (view (action.run state).state)
    ((action.run state).effects.filterMap seen)

/-- What comes before leaves the part alone, and does not raise where the invariant holds. -/
theorem Leaves.thenDoesWithin {invariant : σ → Prop} {action : Action σ ε χ α}
    {next : α → Action σ ε χ β} (leaves : Leaves view (picked · = none) action)
    (completes : Completes invariant action (fun _ => invariant))
    (does : ∀ value, DoesWithin invariant view picked may (next value)) :
    DoesWithin invariant view picked may (action >>= next) := by
  intro state holds
  obtain ⟨value, returned, kept⟩ := completes state holds
  rw [run_bind_ok returned, List.filterMap_append, filterMap_unseen (leaves.shows state),
    List.nil_append, ← leaves.keeps state]
  exact does value _ kept

/-- What comes after leaves the part alone, whether or not it is reached. -/
theorem Does.thenLeaves {action : Action σ ε χ α} {next : α → Action σ ε χ β}
    (does : Does view picked may action)
    (leaves : ∀ value, Leaves view (picked · = none) (next value)) :
    Does view picked may (action >>= next) := by
  intro state
  obtain ⟨raised, ran⟩ | ⟨value, _, ran⟩ := run_bind_cases action next state
  · rw [ran]
    exact does state
  · rw [ran, List.filterMap_append, filterMap_unseen ((leaves value).shows _), List.append_nil,
      (leaves value).keeps]
    exact does state

/-! ## Invariants -/

/-- The action keeps an invariant of the state, also where it raises. -/
def Maintains (invariant : σ → Prop) (action : Action σ ε χ α) : Prop :=
  ∀ state, invariant state → invariant (action.run state).state

variable {invariant : σ → Prop}

theorem Completes.maintains {action : Action σ ε χ α}
    (completes : Completes invariant action (fun _ => invariant)) : Maintains invariant action :=
  fun state holds => (completes state holds).choose_spec.2

theorem Keeps.maintains {action : Action σ ε χ α} (keeps : Keeps view action)
    (property : τ → Prop) :
    Maintains (fun state => property (view state)) action := by
  intro state holds
  show property (view (action.run state).state)
  rwa [keeps state]

theorem Maintains.bind {action : Action σ ε χ α} {next : α → Action σ ε χ β}
    (first : Maintains invariant action) (second : ∀ value, Maintains invariant (next value)) :
    Maintains invariant (action >>= next) := by
  intro state holds
  obtain ⟨raised, ran⟩ | ⟨value, _, ran⟩ := run_bind_cases action next state
  · rw [ran]
    exact first state holds
  · rw [ran]
    exact second value _ (first state holds)

theorem Maintains.ite {condition : Prop} [Decidable condition] {left right : Action σ ε χ α}
    (isTrue : Maintains invariant left) (isFalse : Maintains invariant right) :
    Maintains invariant (if condition then left else right) := by
  split
  · exact isTrue
  · exact isFalse

/-! ## Partial correctness -/

/-- From a state with `before`, `after` holds of what the action returns and leaves, if it
returns. -/
def Meets (before : σ → Prop) (action : Action σ ε χ α) (after : α → σ → Prop) : Prop :=
  ∀ state, before state → ∀ value, (action.run state).value = .ok value →
    after value (action.run state).state

theorem Meets.bind {action : Action σ ε χ α} {next : α → Action σ ε χ β}
    (first : Meets before action middle)
    (second : ∀ value, Meets (middle value) (next value) after) :
    Meets before (action >>= next) after := by
  intro state holds result same
  obtain ⟨raised, ran⟩ | ⟨value, returned, ran⟩ := run_bind_cases action next state
  · rw [ran] at same
    cases same
  · rw [ran] at same ⊢
    exact second value _ (first state holds value returned) result same

theorem Meets.pure {value : β} (holds : ∀ state, before state → after value state) :
    Meets before (Pure.pure value : Action σ ε χ β) after := by
  intro state first found same
  cases same
  exact holds state first

end Action

end Effectful
