import FoxessGateway.Library.Runs

/-! # Dialogues

What one party of a conversation does, as a tree: it says something, waits for a message that it
accepts or gives the wait up, and ends with a value or an error.  A party runs a dialogue over an
inbox that others fill at any time.  `Conforms` checks a dialogue against a plan of complete
conversations, branch by branch, and `run_onPlan` carries it over to every run; `listen` is where
every run comes to that never gives up and in which nothing fails. -/

namespace Dialogues

open Runs

/-- Messages `μ` are heard, and `β` is said. -/
inductive Dialogue (μ β ε α : Type) where
  | done (value : α)
  | raised (error : ε)
  | say (said : β) (next : Dialogue μ β ε α)
  /-- The wait is given up while nothing comes, or late, when a refused message has come. -/
  | hear (accepts : μ → Bool) (givenUp : Bool → Dialogue μ β ε α) (next : μ → Dialogue μ β ε α)

variable {μ β ε α γ : Type}

namespace Dialogue

def bind : Dialogue μ β ε α → (α → Dialogue μ β ε γ) → Dialogue μ β ε γ
  | .done value, next => next value
  | .raised error, _ => .raised error
  | .say said later, next => .say said (later.bind next)
  | .hear accepts givenUp later, next =>
    .hear accepts (fun late => (givenUp late).bind next) fun message => (later message).bind next

instance : Monad (Dialogue μ β ε) where
  pure := .done
  bind := bind

end Dialogue

/-! ## Parties -/

structure Party (μ β ε α : Type) where
  dialogue : Dialogue μ β ε α
  inbox : List μ

inductive PartyAction (μ ε : Type) where
  | deliver (message : μ)
  | proceed
  | giveUp (late : Bool)
  | fail (error : ε)

inductive PartyEvent (μ β : Type) where
  | delivered (message : μ)
  | said (said : β)
  /-- Something was said that may not have arrived. -/
  | broke (said : β)
  | heard (message : μ)
  | refused (message : μ)
  | gaveUp
  deriving DecidableEq, Repr

def partyMachine : Machine (Party μ β ε α) (PartyAction μ ε) (PartyEvent μ β) :=
  fun party action =>
  match action, party.dialogue with
  | .deliver message, _ => some ({ party with inbox := party.inbox ++ [message] },
      [.delivered message])
  | .proceed, .say said next => some ({ party with dialogue := next }, [.said said])
  | .proceed, .hear accepts _ next =>
    match party.inbox with
    | [] => none
    | message :: inbox =>
      if accepts message then some (⟨next message, inbox⟩, [.heard message])
      else some ({ party with inbox }, [.refused message])
  | .giveUp late, .hear _ givenUp _ => some ({ party with dialogue := givenUp late }, [.gaveUp])
  | .fail error, .say said _ => some ({ party with dialogue := .raised error }, [.broke said])
  | _, _ => none

/-- What a party can do. -/
inductive PartyStep : Party μ β ε α → PartyAction μ ε → Party μ β ε α → List (PartyEvent μ β) → Prop
  | deliver (dialogue : Dialogue μ β ε α) (inbox : List μ) (message : μ) :
    PartyStep ⟨dialogue, inbox⟩ (.deliver message) ⟨dialogue, inbox ++ [message]⟩
      [.delivered message]
  | say (said : β) (next : Dialogue μ β ε α) (inbox : List μ) :
    PartyStep ⟨.say said next, inbox⟩ .proceed ⟨next, inbox⟩ [.said said]
  | hear {accepts : μ → Bool} (givenUp : Bool → Dialogue μ β ε α) (next : μ → Dialogue μ β ε α)
      {message : μ} (inbox : List μ) (accepted : accepts message = true) :
    PartyStep ⟨.hear accepts givenUp next, message :: inbox⟩ .proceed ⟨next message, inbox⟩
      [.heard message]
  | refuse {accepts : μ → Bool} (givenUp : Bool → Dialogue μ β ε α) (next : μ → Dialogue μ β ε α)
      {message : μ} (inbox : List μ) (refused : ¬ accepts message = true) :
    PartyStep ⟨.hear accepts givenUp next, message :: inbox⟩ .proceed
      ⟨.hear accepts givenUp next, inbox⟩ [.refused message]
  | giveUp (accepts : μ → Bool) (givenUp : Bool → Dialogue μ β ε α) (next : μ → Dialogue μ β ε α)
      (inbox : List μ) (late : Bool) :
    PartyStep ⟨.hear accepts givenUp next, inbox⟩ (.giveUp late) ⟨givenUp late, inbox⟩ [.gaveUp]
  | fail (said : β) (next : Dialogue μ β ε α) (inbox : List μ) (error : ε) :
    PartyStep ⟨.say said next, inbox⟩ (.fail error) ⟨.raised error, inbox⟩ [.broke said]

theorem partyMachine_step {party next : Party μ β ε α} {action : PartyAction μ ε}
    {shown : List (PartyEvent μ β)} (stepped : partyMachine party action = some (next, shown)) :
    PartyStep party action next shown := by
  obtain ⟨dialogue, inbox⟩ := party
  cases action with
  | deliver message =>
    cases stepped
    exact .deliver dialogue inbox message
  | proceed =>
    cases dialogue with
    | done value => cases stepped
    | raised error => cases stepped
    | say said rest =>
      cases stepped
      exact .say said rest inbox
    | hear accepts givenUp rest =>
      cases inbox with
      | nil => cases stepped
      | cons message inbox =>
        unfold partyMachine at stepped
        dsimp only at stepped
        split at stepped
        · rename_i accepted
          cases stepped
          exact .hear givenUp rest inbox accepted
        · rename_i refused
          cases stepped
          exact .refuse givenUp rest inbox refused
  | giveUp late =>
    cases dialogue with
    | hear accepts givenUp rest =>
      cases stepped
      exact .giveUp accepts givenUp rest inbox late
    | done value => cases stepped
    | raised error => cases stepped
    | say said rest => cases stepped
  | fail error =>
    cases dialogue with
    | say said rest =>
      cases stepped
      exact .fail said rest inbox error
    | done value => cases stepped
    | raised error => cases stepped
    | hear accepts givenUp rest => cases stepped

/-- Any number of messages may come in. -/
theorem run_deliver (party : Party μ β ε α) (messages : List μ) :
    run partyMachine party (messages.map .deliver) =
      some ({ party with inbox := party.inbox ++ messages }, messages.map .delivered) := by
  induction messages generalizing party with
  | nil => simp [run]
  | cons message messages inductionHypothesis =>
    have delivered : partyMachine party (.deliver message) =
        some ({ party with inbox := party.inbox ++ [message] }, [.delivered message]) := rfl
    have later := inductionHypothesis { party with inbox := party.inbox ++ [message] }
    rw [List.append_assoc] at later
    exact run_step delivered later

/-- The conversation without what was refused, in the order in which it was held. -/
inductive Turn (μ β : Type) where
  | speaks (said : β)
  | hears (message : μ)
  deriving DecidableEq, Repr

/-- What broke off may have been said. -/
def PartyEvent.turn : PartyEvent μ β → Option (Turn μ β)
  | .said it | .broke it => some (.speaks it)
  | .heard message => some (.hears message)
  | .delivered _ | .refused _ | .gaveUp => none

def turns (trace : List (PartyEvent μ β)) : List (Turn μ β) := trace.filterMap PartyEvent.turn

def deliveries (trace : List (PartyEvent μ β)) : List μ :=
  trace.filterMap fun event =>
    match event with
    | .delivered message => some message
    | _ => none

theorem turns_append (before after : List (PartyEvent μ β)) :
    turns (before ++ after) = turns before ++ turns after := List.filterMap_append

theorem deliveries_append (before after : List (PartyEvent μ β)) :
    deliveries (before ++ after) = deliveries before ++ deliveries after := List.filterMap_append

/-! ## Plans -/

/-- Complete conversations, each with the value that it ends with, or with none where it is meant to
end in an error. -/
abbrev Plan (μ β α : Type) := List (Turn μ β) → Option α → Prop

/-- What is left of a plan after a part of the conversation. -/
def Plan.after (plan : Plan μ β α) (before : List (Turn μ β)) : Plan μ β α :=
  fun later ending => plan (before ++ later) ending

/-- One conversation after another, where the first ends with a value. -/
def Plan.andThen (first : Plan μ β α) (second : α → Plan μ β γ) : Plan μ β γ :=
  fun turns ending => (∃ before value later, turns = before ++ later ∧ first before (some value) ∧
    second value later ending) ∨ ending = none ∧ first turns none

/-- Whatever the dialogue says begins a conversation of the plan, and a conversation that it ends
with a value is one of them. -/
def Conforms : Dialogue μ β ε α → Plan μ β α → Prop
  | .done value, plan => plan [] (some value)
  | .raised _, _ => True
  | .say said next, plan =>
    (∃ later ending, plan (.speaks said :: later) ending) ∧
      Conforms next (plan.after [.speaks said])
  | .hear accepts givenUp next, plan => (∀ late, Conforms (givenUp late) plan) ∧
      ∀ message, accepts message = true → Conforms (next message) (plan.after [.hears message])

/-- Nothing is said but what begins a conversation of the plan. -/
def OnPlan (plan : Plan μ β α) : List (Turn μ β) → Prop :=
  Justified fun before turn =>
    ∀ said, turn = .speaks said → ∃ later ending, plan (before ++ .speaks said :: later) ending

theorem Plan.after_after (plan : Plan μ β α) (before later : List (Turn μ β)) :
    (plan.after before).after later = plan.after (before ++ later) := by
  funext rest ending
  rw [Plan.after, Plan.after, Plan.after, List.append_assoc]

theorem Conforms.mono {dialogue : Dialogue μ β ε α} {plan other : Plan μ β α}
    (conforms : Conforms dialogue plan) (implies : ∀ turns ending, plan turns ending →
      other turns ending) : Conforms dialogue other := by
  induction dialogue generalizing plan other with
  | done value => exact implies [] (some value) conforms
  | raised error => trivial
  | say said next inductionHypothesis =>
    obtain ⟨⟨later, ending, completed⟩, follows⟩ := conforms
    refine ⟨⟨later, ending, implies _ _ completed⟩, inductionHypothesis follows ?_⟩
    exact fun turns ending => implies _ ending
  | hear accepts givenUp next gaveUp heard =>
    obtain ⟨otherwise, follows⟩ := conforms
    refine ⟨fun late => gaveUp late (otherwise late) implies, fun message accepted => ?_⟩
    exact heard message (follows message accepted) fun turns ending => implies _ ending

theorem Plan.after_andThen {plan : Plan μ β α} {second : α → Plan μ β γ}
    {before turns : List (Turn μ β)} {ending : Option γ}
    (follows : (plan.after before).andThen second turns ending) :
    (plan.andThen second).after before turns ending := by
  rcases follows with ⟨between, value, later, rfl, isFirst, isLater⟩ | ⟨rfl, isFirst⟩
  · exact .inl ⟨before ++ between, value, later, (List.append_assoc _ _ _).symm, isFirst, isLater⟩
  · exact .inr ⟨rfl, isFirst⟩

/-- **Dialogues one after the other.**  A value that ends the first conversation begins a second
that can be completed. -/
theorem Conforms.bind {first : Dialogue μ β ε α} {next : α → Dialogue μ β ε γ}
    {plan : Plan μ β α} {later : α → Plan μ β γ} (conforms : Conforms first plan)
    (goesOn : ∀ value, Conforms (next value) (later value))
    (completes : ∀ value, ∃ turns ending, later value turns ending) :
    Conforms (first.bind next) (plan.andThen later) := by
  induction first generalizing plan with
  | done value =>
    exact (goesOn value).mono fun turns ending rest => .inl ⟨[], value, turns, rfl, conforms, rest⟩
  | raised error => trivial
  | say said rest inductionHypothesis =>
    obtain ⟨⟨between, ending, completed⟩, follows⟩ := conforms
    refine ⟨?_, (inductionHypothesis follows).mono fun _ _ => Plan.after_andThen⟩
    cases ending with
    | none => exact ⟨between, none, .inr ⟨rfl, completed⟩⟩
    | some value =>
      obtain ⟨rest, ending, isLater⟩ := completes value
      exact ⟨between ++ rest, ending, .inl ⟨_, value, rest, rfl, completed, isLater⟩⟩
  | hear accepts givenUp rest gaveUp heard =>
    obtain ⟨otherwise, follows⟩ := conforms
    refine ⟨fun late => gaveUp late (otherwise late), fun message accepted => ?_⟩
    exact (heard message (follows message accepted)).mono fun _ _ => Plan.after_andThen

/-- A value made of the one that ends a dialogue. -/
theorem Conforms.map {first : Dialogue μ β ε α} (make : α → γ) {plan : Plan μ β γ}
    (conforms : Conforms first fun turns ending => plan turns (ending.map make)) :
    Conforms (first.bind fun value => .done (make value)) plan := by
  induction first generalizing plan with
  | done value => exact conforms
  | raised error => trivial
  | say said rest inductionHypothesis =>
    obtain ⟨⟨later, ending, completed⟩, follows⟩ := conforms
    exact ⟨⟨later, ending.map make, completed⟩, inductionHypothesis follows⟩
  | hear accepts givenUp rest gaveUp heard =>
    obtain ⟨otherwise, follows⟩ := conforms
    refine ⟨fun late => gaveUp late (otherwise late), fun message accepted => ?_⟩
    exact heard message (follows message accepted)

theorem onPlan_nil (plan : Plan μ β α) : OnPlan plan [] := justified_nil

/-- A step of a party that conforms. -/
theorem partyMachine_conforms {plan : Plan μ β α} {party next : Party μ β ε α}
    {action : PartyAction μ ε} {history shown : List (PartyEvent μ β)}
    (holds : Conforms party.dialogue (plan.after (turns history)) ∧ OnPlan plan (turns history))
    (stepped : partyMachine party action = some (next, shown)) :
    Conforms next.dialogue (plan.after (turns (history ++ shown))) ∧
      OnPlan plan (turns (history ++ shown)) := by
  obtain ⟨conforms, onPlan⟩ := holds
  rw [turns_append, ← Plan.after_after]
  have silent : turns shown = [] → Conforms next.dialogue (plan.after (turns history)) →
      Conforms next.dialogue ((plan.after (turns history)).after (turns shown)) ∧
        OnPlan plan (turns history ++ turns shown) := by
    intro nothing follows
    rw [nothing, List.append_nil]
    exact ⟨follows, onPlan⟩
  cases partyMachine_step stepped with
  | deliver dialogue inbox message => exact silent rfl conforms
  | say said rest inbox =>
    refine ⟨conforms.2, justified_concat.mpr ⟨onPlan, ?_⟩⟩
    rintro _ ⟨⟩
    exact conforms.1
  | @hear accepts givenUp rest message inbox accepted =>
    refine ⟨conforms.2 message accepted, justified_concat.mpr ⟨onPlan, ?_⟩⟩
    rintro _ ⟨⟩
  | refuse givenUp rest inbox refused => exact silent rfl conforms
  | giveUp accepts givenUp rest inbox late => exact silent rfl (conforms.1 late)
  | fail said rest inbox error =>
    refine ⟨trivial, justified_concat.mpr ⟨onPlan, ?_⟩⟩
    rintro _ ⟨⟩
    exact conforms.1

/-- **Runs stay on the plan.**  In every run of a dialogue that conforms, whatever is said begins a
conversation of the plan, and a value that comes out ends one. -/
theorem run_onPlan {plan : Plan μ β α} {dialogue : Dialogue μ β ε α}
    (conforms : Conforms dialogue plan) {inbox : List μ} {actions : List (PartyAction μ ε)}
    {final : Party μ β ε α} {trace : List (PartyEvent μ β)}
    (ran : run partyMachine ⟨dialogue, inbox⟩ actions = some (final, trace)) :
    OnPlan plan (turns trace) ∧ ∀ value, final.dialogue = .done value →
      plan (turns trace) (some value) := by
  let holds : Party μ β ε α → List (PartyEvent μ β) → Prop := fun party history =>
    Conforms party.dialogue (plan.after (turns history)) ∧ OnPlan plan (turns history)
  have reached : holds final ([] ++ trace) := run_invariant partyMachine_conforms
    (⟨conforms, onPlan_nil plan⟩ : holds ⟨dialogue, inbox⟩ []) ran
  obtain ⟨follows, onPlan⟩ := reached
  refine ⟨onPlan, fun value isDone => ?_⟩
  rw [isDone, List.nil_append] at follows
  have ended : plan (turns trace ++ []) (some value) := follows
  rwa [List.append_nil] at ended

/-! ## What is heard -/

/-- The messages heard so far. -/
def Turn.message : Turn μ β → Option μ
  | .hears message => some message
  | .speaks _ => none

def hearings (conversation : List (Turn μ β)) : List μ := conversation.filterMap Turn.message

/-- What a party has taken out of its inbox, it has heard or refused. -/
theorem partyMachine_hears {party next : Party μ β ε α} {action : PartyAction μ ε}
    {history shown : List (PartyEvent μ β)}
    (holds : ∃ taken, deliveries history = taken ++ party.inbox ∧
      (hearings (turns history)).Sublist taken)
    (stepped : partyMachine party action = some (next, shown)) :
    ∃ taken, deliveries (history ++ shown) = taken ++ next.inbox ∧
      (hearings (turns (history ++ shown))).Sublist taken := by
  obtain ⟨taken, delivered, heard⟩ := holds
  rw [turns_append, deliveries_append, hearings, List.filterMap_append, ← hearings, ← hearings]
  cases partyMachine_step stepped with
  | deliver dialogue inbox message =>
    refine ⟨taken, ?_, (List.append_nil _).symm ▸ heard⟩
    rw [delivered, List.append_assoc]
    rfl
  | say said rest inbox =>
    exact ⟨taken, (List.append_nil _).trans delivered, (List.append_nil _).symm ▸ heard⟩
  | @hear accepts givenUp rest message inbox accepted =>
    have left : deliveries history ++ [] = taken ++ [message] ++ inbox := by
      rw [List.append_nil, delivered, List.append_assoc]
      rfl
    exact ⟨taken ++ [message], left, heard.append (List.Sublist.refl [message])⟩
  | @refuse accepts givenUp rest message inbox refused =>
    have left : deliveries history ++ [] = taken ++ [message] ++ inbox := by
      rw [List.append_nil, delivered, List.append_assoc]
      rfl
    exact ⟨taken ++ [message], left, heard.append (List.nil_sublist [message])⟩
  | giveUp accepts givenUp rest inbox late =>
    exact ⟨taken, (List.append_nil _).trans delivered, (List.append_nil _).symm ▸ heard⟩
  | fail said rest inbox error =>
    exact ⟨taken, (List.append_nil _).trans delivered, (List.append_nil _).symm ▸ heard⟩

/-- **What is heard was delivered**, in the same order. -/
theorem run_hears {dialogue : Dialogue μ β ε α} {actions : List (PartyAction μ ε)}
    {final : Party μ β ε α} {trace : List (PartyEvent μ β)}
    (ran : run partyMachine ⟨dialogue, []⟩ actions = some (final, trace)) :
    (hearings (turns trace)).Sublist (deliveries trace) := by
  let holds : Party μ β ε α → List (PartyEvent μ β) → Prop := fun party history =>
    ∃ taken, deliveries history = taken ++ party.inbox ∧ (hearings (turns history)).Sublist taken
  have reached : holds final ([] ++ trace) := run_invariant partyMachine_hears
    (⟨[], rfl, List.Sublist.refl []⟩ : holds ⟨dialogue, []⟩ []) ran
  obtain ⟨taken, delivered, heard⟩ := reached
  rw [List.nil_append] at delivered heard
  rw [delivered]
  exact heard.trans (List.sublist_append_left taken _)

/-! ## Patient runs -/

/-- The conversation that a dialogue holds with the messages of an inbox where nothing is given up,
where it comes to, and the messages that are left. -/
def listen : Dialogue μ β ε α → List μ → List (Turn μ β) × Party μ β ε α
  | .done value, inbox => ([], ⟨.done value, inbox⟩)
  | .raised error, inbox => ([], ⟨.raised error, inbox⟩)
  | .say said next, inbox => ((listen next inbox).1.cons (.speaks said), (listen next inbox).2)
  | .hear accepts givenUp next, inbox =>
    match inbox.dropWhile fun message => !accepts message with
    | [] => ([], ⟨.hear accepts givenUp next, []⟩)
    | message :: inbox =>
      ((listen (next message) inbox).1.cons (.hears message), (listen (next message) inbox).2)

/-- Nothing is given up and nothing fails. -/
def PartyAction.Patient : PartyAction μ ε → Prop
  | .deliver _ | .proceed => True
  | .giveUp _ | .fail _ => False

/-- A party that waits for what has not come, or has ended. -/
def Party.AtRest (party : Party μ β ε α) : Prop :=
  match party.dialogue with
  | .done _ | .raised _ => True
  | .say _ _ => False
  | .hear _ _ _ => party.inbox = []

theorem listen_hear_accepted {accepts : μ → Bool} {message : μ}
    (accepted : accepts message = true) (givenUp : Bool → Dialogue μ β ε α)
    (next : μ → Dialogue μ β ε α) (inbox : List μ) :
    listen (.hear accepts givenUp next) (message :: inbox) =
      ((listen (next message) inbox).1.cons (.hears message), (listen (next message) inbox).2) := by
  rw [listen, List.dropWhile_cons_of_neg (by simp [accepted])]

theorem listen_hear_refused {accepts : μ → Bool} {message : μ}
    (refused : ¬ accepts message = true) (givenUp : Bool → Dialogue μ β ε α)
    (next : μ → Dialogue μ β ε α) (inbox : List μ) :
    listen (.hear accepts givenUp next) (message :: inbox) =
      listen (.hear accepts givenUp next) inbox := by
  rw [listen, List.dropWhile_cons_of_pos (by simp [refused]), listen]

/-- Messages that are all refused make no difference. -/
theorem listen_hear_append {accepts : μ → Bool} {skipped : List μ}
    (refused : ∀ message ∈ skipped, ¬ accepts message = true) (givenUp : Bool → Dialogue μ β ε α)
    (next : μ → Dialogue μ β ε α) (inbox : List μ) :
    listen (.hear accepts givenUp next) (skipped ++ inbox) =
      listen (.hear accepts givenUp next) inbox := by
  induction skipped with
  | nil => rfl
  | cons message skipped inductionHypothesis =>
    rw [List.cons_append, listen_hear_refused (refused message List.mem_cons_self)]
    exact inductionHypothesis fun other member => refused other (List.mem_cons_of_mem _ member)

/-- The conversation from a party on, if so many messages are still to come. -/
def Party.conversation (party : Party μ β ε α) (more : List μ) :
    List (Turn μ β) × Party μ β ε α := listen party.dialogue (party.inbox ++ more)

/-- A patient step is a part of the conversation. -/
theorem partyStep_conversation {party next : Party μ β ε α} {action : PartyAction μ ε}
    {shown : List (PartyEvent μ β)} (step : PartyStep party action next shown)
    (patient : action.Patient) (more : List μ) :
    party.conversation (deliveries shown ++ more) =
      (turns shown ++ (next.conversation more).1, (next.conversation more).2) := by
  cases step with
  | deliver dialogue inbox message =>
    rw [Party.conversation, Party.conversation, List.append_assoc]
    rfl
  | say said rest inbox => rfl
  | hear givenUp rest inbox accepted => exact listen_hear_accepted accepted givenUp rest _
  | refuse givenUp rest inbox refused => exact listen_hear_refused refused givenUp rest _
  | giveUp accepts givenUp rest inbox late => exact patient.elim
  | fail said rest inbox error => exact patient.elim

theorem Party.AtRest.conversation {party : Party μ β ε α} (rests : party.AtRest) :
    party.conversation [] = ([], party) := by
  obtain ⟨dialogue, inbox⟩ := party
  rw [Party.conversation, List.append_nil]
  cases dialogue with
  | done value => rfl
  | raised error => rfl
  | say said next => exact rests.elim
  | hear accepts givenUp next =>
    obtain rfl : inbox = [] := rests
    rfl

/-- **Patient runs agree.**  However the messages come in, a run that never gives up, in which
nothing fails and which has come to rest, holds the one conversation. -/
theorem run_listen {dialogue : Dialogue μ β ε α} {actions : List (PartyAction μ ε)}
    {final : Party μ β ε α} {trace : List (PartyEvent μ β)}
    (patient : ∀ action ∈ actions, action.Patient)
    (ran : run partyMachine ⟨dialogue, []⟩ actions = some (final, trace))
    (rests : final.AtRest) : listen dialogue (deliveries trace) = (turns trace, final) := by
  -- so far the run has held the beginning of the conversation, whatever messages are to come
  let holds : Party μ β ε α → List (PartyEvent μ β) → Prop := fun party history =>
    ∀ more, listen dialogue (deliveries history ++ more) =
      (turns history ++ (party.conversation more).1, (party.conversation more).2)
  have initially : holds ⟨dialogue, []⟩ [] := fun more => rfl
  have within : Along partyMachine (fun _ action => action.Patient) ⟨dialogue, []⟩ actions :=
    .of_forall fun _ => patient
  have reached : holds final ([] ++ trace) := by
    refine run_invariant_along ?_ initially within ran
    intro party history action next shown agrees isPatient stepped more
    have goesOn := partyStep_conversation (partyMachine_step stepped) isPatient more
    rw [deliveries_append, turns_append, List.append_assoc, agrees, goesOn, List.append_assoc]
  have agrees := reached []
  rw [rests.conversation] at agrees
  simpa using agrees

/-- The inbox brings these messages, each the first since the one before that is accepted, and ends
with so many that are left. -/
inductive Brings : List ((μ → Bool) × μ) → List μ → List μ → Prop
  | done (inbox : List μ) : Brings [] inbox inbox
  | refuse {accepts : μ → Bool} {message other : μ} {script : List ((μ → Bool) × μ)}
      {inbox rest : List μ} (refused : ¬ accepts other = true)
      (later : Brings ((accepts, message) :: script) inbox rest) :
    Brings ((accepts, message) :: script) (other :: inbox) rest
  | bring {accepts : μ → Bool} {message : μ} {script : List ((μ → Bool) × μ)}
      {inbox rest : List μ} (accepted : accepts message = true) (later : Brings script inbox rest) :
    Brings ((accepts, message) :: script) (message :: inbox) rest

theorem Brings.mem {script : List ((μ → Bool) × μ)} {inbox rest : List μ}
    (brings : Brings script inbox rest) : ∀ wait ∈ script, wait.2 ∈ inbox := by
  induction brings with
  | done inbox => exact nofun
  | refuse refused later inductionHypothesis =>
    exact fun wait member => List.mem_cons_of_mem _ (inductionHypothesis wait member)
  | bring accepted later inductionHypothesis =>
    intro wait member
    rcases List.mem_cons.mp member with rfl | further
    · exact List.mem_cons_self
    · exact List.mem_cons_of_mem _ (inductionHypothesis wait further)

/-- The first of the messages, with what is refused in front of it. -/
theorem Brings.split {accepts : μ → Bool} {message : μ} {script : List ((μ → Bool) × μ)}
    {inbox rest : List μ} (brings : Brings ((accepts, message) :: script) inbox rest) :
    ∃ skipped later, inbox = skipped ++ message :: later ∧
      (∀ other ∈ skipped, ¬ accepts other = true) ∧ accepts message = true ∧
      Brings script later rest := by
  induction inbox with
  | nil => cases brings
  | cons other inbox inductionHypothesis =>
    cases brings with
    | refuse refused later =>
      obtain ⟨skipped, left, rfl, allRefused, accepted, goesOn⟩ := inductionHypothesis later
      exact ⟨other :: skipped, left, rfl, List.forall_mem_cons.mpr ⟨refused, allRefused⟩, accepted,
        goesOn⟩
    | bring accepted later => exact ⟨[], inbox, rfl, nofun, accepted, later⟩

theorem listen_bind (first : Dialogue μ β ε α) (next : α → Dialogue μ β ε γ) (inbox : List μ) :
    listen (first.bind next) inbox =
      match (listen first inbox).2.dialogue with
      | .done value =>
        ((listen first inbox).1 ++ (listen (next value) (listen first inbox).2.inbox).1,
          (listen (next value) (listen first inbox).2.inbox).2)
      | other => ((listen first inbox).1, ⟨other.bind next, (listen first inbox).2.inbox⟩) := by
  induction first generalizing inbox with
  | done value => rfl
  | raised error => rfl
  | say said rest inductionHypothesis =>
    rw [Dialogue.bind, listen, listen, inductionHypothesis]
    dsimp only
    split <;> rfl
  | hear accepts givenUp rest gaveUp heard =>
    rw [Dialogue.bind, listen, listen]
    split
    · rfl
    · rename_i message later isLater
      rw [heard message later]
      dsimp only
      split <;> rfl

end Dialogues
