import FoxessGateway.Provisioning.Session

/-! # What is said to an inverter

Every run of `provision` and of `list_networks`, whatever the inverter sends and whenever the
Bluetooth link breaks or a wait times out, keeps to a plan: nothing is written before the frame that
it answers has been heard. -/

namespace FoxessGateway.Provisioning

open ByteOrder Protocol Dialogues Dialogue Runs

/-! ## Sessions as parties -/

section Sessions

variable {α : Type} {session next final : BleSession α} {trace : List BleEvent}

def BleAction.Patient : BleAction → Prop
  | .notify _ | .proceed => True
  | .timeout _ | .fail _ => False

/-- A notification is so many deliveries. -/
theorem bleMachine_notify {data : Bytes} {shown : List BleEvent}
    (stepped : bleMachine session (.notify data) = some (next, shown)) :
    let valid := (extractFrames (session.buf ++ data)).1.filter (·.validCrc)
    run partyMachine session.party (valid.map .deliver) = some (next.party, shown) ∧
      deliveries shown = valid ∧ next.buf = (extractFrames (session.buf ++ data)).2 := by
  cases stepped
  refine ⟨run_deliver _ _, ?_, rfl⟩
  rw [deliveries, List.filterMap_map]
  exact List.filterMap_some

/-- Any other action is one of the party. -/
theorem bleMachine_task {action : BleAction} {shown : List BleEvent}
    (task : action.data = none)
    (stepped : bleMachine session action = some (next, shown)) :
    ∃ partyAction, partyMachine session.party partyAction = some (next.party, shown) ∧
      (action.Patient → partyAction.Patient) ∧ deliveries shown = [] ∧ next.buf = session.buf := by
  have quiet : ∀ {partyAction}, (∀ message, partyAction ≠ .deliver message) →
      (partyMachine session.party partyAction).map (Prod.map (BleSession.mk session.buf) id) =
        some (next, shown) →
      partyMachine session.party partyAction = some (next.party, shown) ∧
        deliveries shown = [] ∧ next.buf = session.buf := by
    intro partyAction notDeliver mapped
    obtain ⟨⟨party, events⟩, moved, same⟩ := Option.map_eq_some_iff.mp mapped
    obtain ⟨rfl, rfl⟩ := Prod.mk.inj same
    refine ⟨moved, ?_, rfl⟩
    have step := partyMachine_step moved
    generalize session.party = before at step
    cases step with
    | deliver dialogue inbox message => exact absurd rfl (notDeliver message)
    | say said rest inbox => rfl
    | hear givenUp rest inbox accepted => rfl
    | refuse givenUp rest inbox refused => rfl
    | giveUp accepts givenUp rest inbox late => rfl
    | fail said rest inbox error => rfl
  cases action with
  | notify data => cases task
  | proceed =>
    obtain ⟨moved, nothing, buf⟩ := quiet (fun _ => by simp) stepped
    exact ⟨.proceed, moved, fun _ => trivial, nothing, buf⟩
  | timeout late =>
    obtain ⟨moved, nothing, buf⟩ := quiet (fun _ => by simp) stepped
    exact ⟨.giveUp late, moved, fun patient => patient, nothing, buf⟩
  | fail error =>
    obtain ⟨moved, nothing, buf⟩ := quiet (fun _ => by simp) stepped
    exact ⟨.fail error, moved, fun patient => patient, nothing, buf⟩

/-- **A session is a party** whose messages are the valid frames of its notifications. -/
theorem bleMachine_run {actions : List BleAction}
    (ran : run bleMachine session actions = some (final, trace)) :
    ∃ partyActions, run partyMachine session.party partyActions = some (final.party, trace) ∧
      ((∀ action ∈ actions, action.Patient) →
        ∀ partyAction ∈ partyActions, partyAction.Patient) ∧
      deliveries trace = (frameScanner.feed session.buf
        (actions.filterMap BleAction.data)).1.filter (·.validCrc) := by
  induction actions generalizing session trace with
  | nil =>
    cases ran
    exact ⟨[], rfl, fun _ => nofun, rfl⟩
  | cons action actions inductionHypothesis =>
    obtain ⟨next, shown, later, stepped, continued, rfl⟩ := run_cons_eq_some.mp ran
    obtain ⟨partyActions, followed, patient, delivered⟩ := inductionHypothesis continued
    rw [deliveries_append, delivered]
    cases task : action.data with
    | none =>
      obtain ⟨partyAction, moved, patientHere, nothing, buf⟩ := bleMachine_task task stepped
      refine ⟨partyAction :: partyActions, run_step moved followed, ?_, ?_⟩
      · intro allPatient partyAction' member
        rcases List.mem_cons.mp member with rfl | further
        · exact patientHere (allPatient action List.mem_cons_self)
        · exact patient (fun other isOther => allPatient other (List.mem_cons_of_mem _ isOther))
            partyAction' further
      · rw [nothing, buf, List.filterMap_cons_none task, List.nil_append]
    | some data =>
      obtain rfl : action = .notify data := by
        cases action with
        | notify other =>
          cases task
          rfl
        | proceed | timeout _ | fail _ => cases task
      obtain ⟨moved, here, buf⟩ := bleMachine_notify stepped
      refine ⟨_, run_trans moved followed, ?_, ?_⟩
      · intro allPatient partyAction member
        rcases List.mem_append.mp member with isHere | further
        · obtain ⟨message, _, rfl⟩ := List.mem_map.mp isHere
          trivial
        · exact patient (fun other isOther => allPatient other (List.mem_cons_of_mem _ isOther))
            partyAction further
      · rw [here, buf, List.filterMap_cons_some task, Streaming.Scanner.feed, List.filter_append]
        rfl

end Sessions

/-! ## Complete conversations -/

/-- The responder answers the frame at that step. -/
def Answers (step : Nat) (frame : Frame) (raw : Bytes) : Prop :=
  (BootstrapResponder.mk step).responseFor frame = (⟨step + 1⟩, .ok (some raw))

/-- The frames that the responder waits for. -/
def IsStep : Nat → Frame → Prop
  | 0, frame => isRegistration frame = true
  | 1, frame => frame.start = marker7e ∧ frame.raw.length = 17
  | 2, frame => frame.start = marker7e ∧ frame.raw.length = 14
  | _, _ => False

/-- The registration and two more frames, of 17 and of 14 bytes, each with its answer. -/
structure BootstrapExchange where
  registration : Frame
  second : Frame
  third : Frame
  firstAnswer : Bytes
  secondAnswer : Bytes
  thirdAnswer : Bytes
  tail : Bytes
  registers : IsStep 0 registration
  secondKind : IsStep 1 second
  thirdKind : IsStep 2 third
  firstAnswers : Answers 0 registration firstAnswer
  secondAnswers : Answers 1 second secondAnswer
  thirdAnswers : Answers 2 third thirdAnswer
  derived : deriveDeviceTail registration = .ok tail

def BootstrapExchange.turns (exchange : BootstrapExchange) : List (Turn Frame Bytes) :=
  [.hears exchange.registration, .speaks exchange.firstAnswer, .hears exchange.second,
    .speaks exchange.secondAnswer, .hears exchange.third, .speaks exchange.thirdAnswer]

def BootstrapExchange.serial (exchange : BootstrapExchange) : Text :=
  (registrationSerial exchange.registration).getD []

def bootstrapPlan : Plan Frame Bytes (Bytes × Text) := fun turns ending =>
  ∃ exchange : BootstrapExchange, turns = exchange.turns ∧
    ending = some (exchange.tail, exchange.serial)

/-- The frame answers the commissioning command. -/
def IsAnswerTo (func : UInt8) (frame : Frame) : Prop := frame.start = marker7f ∧ frame.func = func

theorem answerTo_accepts {func : UInt8} {frame : Frame} :
    (answerTo func).accepts frame = true ↔ IsAnswerTo func frame := by
  simp [answerTo, Wanted.accepts, IsAnswerTo]

theorem bootstrapFrame_accepts {frame : Frame} :
    bootstrapFrame.accepts frame = true ↔ frame.start = marker7e := by
  simp [bootstrapFrame, Wanted.accepts]

/-- The request to scan and its answer. -/
def scanPlan (tail : Bytes) : Plan Frame Bytes (List ScannedNetwork) := fun turns ending =>
  ∃ answer, IsAnswerTo fnScan answer ∧
    turns = [.speaks (commandFrame altHighByte tail fnScan [0x06]).raw, .hears answer] ∧
    ending = (parseScanResponse answer).toOption

def selectFrame (tail : Bytes) : Frame := commandFrame altHighByte tail fnSelect selectToken

def credentialsFrame (tail : Bytes) (ssid passphrase : Text) : Frame :=
  commandFrame setCredsHighByte tail fnSetCreds (credentialsPayload ssid passphrase)

def commitFrame (tail : Bytes) : Frame := commandFrame altHighByte tail fnCommit commitPayload

/-- Credentials that can be sent follow the answer to the selection, and the commit follows the
answer to them.  Others end the conversation once the selection has been answered. -/
inductive CredentialsPlan (tail : Bytes) (ssid passphrase : Text) : Plan Frame Bytes Unit
  | committed {selected stored : Frame} (acceptable : Acceptable ssid passphrase)
      (isSelected : IsAnswerTo fnSelect selected) (isStored : IsAnswerTo fnSetCreds stored)
      (confirmation : Option Frame) (confirms : ∀ frame ∈ confirmation, IsAnswerTo fnCommit frame) :
    CredentialsPlan tail ssid passphrase
      ([.speaks (selectFrame tail).raw, .hears selected,
        .speaks (credentialsFrame tail ssid passphrase).raw, .hears stored,
        .speaks (commitFrame tail).raw] ++ confirmation.toList.map .hears) (some ())
  | unacceptable {selected : Frame} (unacceptable : ¬ Acceptable ssid passphrase)
      (isSelected : IsAnswerTo fnSelect selected) :
    CredentialsPlan tail ssid passphrase [.speaks (selectFrame tail).raw, .hears selected] none

/-! ## The bootstrap -/

theorem answers_isStep {step : Nat} {frame : Frame} {raw : Bytes}
    (answers : Answers step frame raw) : IsStep step frame := by
  rw [Answers, BootstrapResponder.responseFor] at answers
  cases answered : bootstrapAnswer step frame with
  | none =>
    rw [answered] at answers
    cases answers
  | some answer =>
    rw [bootstrapAnswer] at answered
    split at answered
    · rename_i first
      obtain ⟨rfl, registers⟩ := first
      exact registers
    split at answered
    · rename_i second
      obtain ⟨rfl, kind⟩ := second
      exact kind
    split at answered
    · rename_i third
      obtain ⟨rfl, kind⟩ := third
      exact kind
    · cases answered

/-- A frame of 17 bytes, and one of 14. -/
def bareFrame (payload : Bytes) : Frame :=
  builtFrame marker7e [0x00, 0x00, 0x00, 0x00] 0x00 payload endE7

theorem bareFrame_answers : (∃ raw, Answers 1 (bareFrame [0, 0, 0, 0]) raw) ∧
    ∃ raw, Answers 2 (bareFrame [0]) raw := by
  constructor
  · obtain ⟨raw, replied⟩ := bootstrapReply_eq (show (bareFrame [0, 0, 0, 0]).device.length = 4 by
      rfl) 0x80 (show ([] : Bytes).length < 256 ^ 2 by decide)
    exact ⟨raw, congrArg (Prod.mk (BootstrapResponder.mk 2)) replied⟩
  · obtain ⟨raw, replied⟩ := bootstrapReply_eq (show (bareFrame [0]).device.length = 4 by
      rfl) 0x81 (show ([0x01] : Bytes).length < 256 ^ 2 by decide)
    exact ⟨raw, congrArg (Prod.mk (BootstrapResponder.mk 3)) replied⟩

/-- A round of the loop says the answer of its step, and goes on with the next frame. -/
theorem bootstrapRounds_conforms {plan : Plan Frame Bytes Unit} {rounds step : Nat} {frame : Frame}
    (early : step < 3)
    (begins : ∀ raw, Answers step frame raw → ∃ later ending, plan (.speaks raw :: later) ending)
    (ends : ∀ raw, Answers step frame raw → 3 ≤ step + 1 → plan [.speaks raw] (some ()))
    (goesOn : ∀ raw current, Answers step frame raw → step + 1 < 3 → current.start = marker7e →
      Conforms (bootstrapRounds rounds ⟨step + 1⟩ current)
        (plan.after [.speaks raw, .hears current])) :
    Conforms (bootstrapRounds (rounds + 1) ⟨step⟩ frame) plan := by
  rw [bootstrapRounds, if_pos early]
  cases answered : bootstrapAnswer step frame with
  | none =>
    rw [BootstrapResponder.responseFor, answered]
    trivial
  | some answer =>
    have responded : (BootstrapResponder.mk step).responseFor frame =
        (⟨step + 1⟩, bootstrapReply frame answer.1 answer.2) := by
      rw [BootstrapResponder.responseFor, answered]
    rw [responded]
    cases replied : bootstrapReply frame answer.1 answer.2 with
    | error raised => trivial
    | ok response =>
      cases response with
      | none => trivial
      | some raw =>
        have answers : Answers step frame raw := responded.trans (by rw [replied])
        refine ⟨begins raw answers, ?_⟩
        change Conforms (if step + 1 ≥ 3 then _ else _) _
        by_cases last : 3 ≤ step + 1
        · rw [if_pos last]
          exact ends raw answers last
        · rw [if_neg last]
          refine ⟨fun _ => trivial, fun current accepted => ?_⟩
          exact goesOn raw current answers (by omega) (bootstrapFrame_accepts.mp accepted)

theorem bootstrapPlan_exchange {registration second third : Frame} {first' second' third' : Bytes}
    {tail : Bytes} (derived : deriveDeviceTail registration = .ok tail)
    (firstAnswers : Answers 0 registration first') (secondAnswers : Answers 1 second second')
    (thirdAnswers : Answers 2 third third') :
    bootstrapPlan [.hears registration, .speaks first', .hears second, .speaks second',
      .hears third, .speaks third'] (some (tail, (registrationSerial registration).getD [])) :=
  ⟨⟨registration, second, third, first', second', third', tail, answers_isStep firstAnswers,
    answers_isStep secondAnswers, answers_isStep thirdAnswers, firstAnswers, secondAnswers,
    thirdAnswers, derived⟩, rfl, rfl⟩

theorem bootstrapFrom_conforms (registration : Frame) :
    Conforms (bootstrapFrom registration) (bootstrapPlan.after [.hears registration]) := by
  obtain ⟨⟨_, secondSample⟩, ⟨_, thirdSample⟩⟩ := bareFrame_answers
  rw [bootstrapFrom]
  split
  · trivial
  cases derived : deriveDeviceTail registration with
  | error raised => trivial
  | ok tail =>
    apply Conforms.map fun _ : Unit => (tail, (registrationSerial registration).getD [])
    -- one round after the other
    refine bootstrapRounds_conforms (by decide) ?_ (fun _ _ late => absurd late (by decide)) ?_
    · intro raw firstAnswers
      exact ⟨_, some (), bootstrapPlan_exchange derived firstAnswers secondSample thirdSample⟩
    intro raw second firstAnswers _ _
    refine bootstrapRounds_conforms (by decide) ?_ (fun _ _ late => absurd late (by decide)) ?_
    · intro raw' secondAnswers
      exact ⟨_, some (), bootstrapPlan_exchange derived firstAnswers secondAnswers thirdSample⟩
    intro raw' third secondAnswers _ _
    refine bootstrapRounds_conforms (by decide) ?_ ?_ (fun _ _ _ early => absurd early (by decide))
    · intro raw'' thirdAnswers
      exact ⟨[], some (), bootstrapPlan_exchange derived firstAnswers secondAnswers thirdAnswers⟩
    · intro raw'' thirdAnswers _
      exact bootstrapPlan_exchange derived firstAnswers secondAnswers thirdAnswers

theorem bootstrap_conforms : Conforms bootstrap bootstrapPlan :=
  ⟨fun _ => trivial, fun registration _ => bootstrapFrom_conforms registration⟩

/-! ## The commands -/

theorem makeScanRequest_eq (tail : Bytes) :
    makeScanRequest tail = .ok (commandFrame altHighByte tail fnScan [0x06]).raw :=
  altFrame_eq tail altHighByte fnScan (by decide)

theorem makeSelectRequest_eq (tail : Bytes) :
    makeSelectRequest tail = .ok (selectFrame tail).raw :=
  altFrame_eq tail altHighByte fnSelect (by decide)

theorem makeCommit_eq (tail : Bytes) : makeCommit tail = .ok (commitFrame tail).raw :=
  altFrame_eq tail altHighByte fnCommit (by decide)

/-- An answer to the command. -/
theorem isAnswerTo_command (tail : Bytes) (func : UInt8) :
    IsAnswerTo func (commandFrame altHighByte tail func []) := ⟨rfl, rfl⟩

theorem listNetworks_conforms (tail : Bytes) : Conforms (listNetworks tail) (scanPlan tail) := by
  rw [listNetworks, makeScanRequest_eq]
  refine ⟨⟨_, _, _, isAnswerTo_command tail fnScan, rfl, rfl⟩, fun _ => trivial,
    fun answer accepted => ?_⟩
  have isAnswer := answerTo_accepts.mp accepted
  change Conforms (orRaise (parseScanResponse answer)) _
  cases parsed : parseScanResponse answer with
  | error raised => trivial
  | ok networks => exact ⟨answer, isAnswer, rfl, congrArg Except.toOption parsed.symm⟩

theorem setCredentials_conforms (tail : Bytes) (ssid passphrase : Text) :
    Conforms (setCredentials tail ssid passphrase) (CredentialsPlan tail ssid passphrase) := by
  rw [setCredentials, makeSelectRequest_eq, makeCommit_eq]
  by_cases acceptable : Acceptable ssid passphrase
  · rw [makeSetCredentials_eq tail acceptable]
    -- what has been said so far can always be completed without a confirmation
    have completes : ∀ {selected stored : Frame}, IsAnswerTo fnSelect selected →
        IsAnswerTo fnSetCreds stored → CredentialsPlan tail ssid passphrase
          [.speaks (selectFrame tail).raw, .hears selected,
            .speaks (credentialsFrame tail ssid passphrase).raw, .hears stored,
            .speaks (commitFrame tail).raw] (some ()) := fun isSelected isStored =>
      .committed acceptable isSelected isStored none nofun
    have anySelected := isAnswerTo_command tail fnSelect
    have anyStored := isAnswerTo_command tail fnSetCreds
    refine ⟨⟨_, _, completes anySelected anyStored⟩, fun _ => trivial,
      fun selected accepted => ?_⟩
    have isSelected := answerTo_accepts.mp accepted
    refine ⟨⟨_, _, completes isSelected anyStored⟩, fun _ => trivial,
      fun stored accepted => ?_⟩
    have isStored := answerTo_accepts.mp accepted
    refine ⟨⟨_, _, completes isSelected isStored⟩, fun _ => completes isSelected isStored, ?_⟩
    intro confirmation accepted
    have confirms := answerTo_accepts.mp accepted
    exact .committed acceptable isSelected isStored (some confirmation) (by
      rintro _ ⟨⟩
      exact confirms)
  · obtain ⟨message, refused⟩ := makeSetCredentials_refused tail acceptable
    rw [refused]
    exact ⟨⟨_, _, .unacceptable acceptable (isAnswerTo_command tail fnSelect)⟩, fun _ => trivial,
      fun selected accepted => trivial⟩

/-! ## A session without delays -/

/-- Every frame comes in a notification of its own, and then the session takes so many steps. -/
def promptActions (frames : List Frame) (steps : Nat) : List BleAction :=
  frames.map (fun frame => .notify frame.raw) ++ List.replicate steps .proceed

theorem run_notified {α : Type} {frames : List Frame}
    (valid : ∀ frame ∈ frames, frame.WellFormed ∧ frame.validCrc = true)
    (dialogue : BleDialogue α) (inbox : List Frame) :
    run bleMachine ⟨[], ⟨dialogue, inbox⟩⟩ (frames.map fun frame => .notify frame.raw) =
      some (⟨[], ⟨dialogue, inbox ++ frames⟩⟩, frames.map .delivered) := by
  induction frames generalizing inbox with
  | nil => rw [List.append_nil]; rfl
  | cons frame frames inductionHypothesis =>
    obtain ⟨wellFormed, isValid⟩ := valid frame List.mem_cons_self
    have notified : bleMachine ⟨[], ⟨dialogue, inbox⟩⟩ (.notify frame.raw) =
        some (⟨[], ⟨dialogue, inbox ++ [frame]⟩⟩, [.delivered frame]) := by
      have kept : [frame].filter (·.validCrc) = [frame] := List.filter_cons_of_pos isValid
      simp only [bleMachine, List.nil_append, wellFormed.extractFrames_raw, kept]
      rfl
    have later := inductionHypothesis
      (fun other member => valid other (List.mem_cons_of_mem _ member)) (inbox ++ [frame])
    rw [List.append_assoc] at later
    exact run_step notified later

theorem received_promptActions {frames : List Frame}
    (valid : ∀ frame ∈ frames, frame.WellFormed ∧ frame.validCrc = true) (steps : Nat) :
    received (promptActions frames steps) = frames := by
  have tasks : (List.replicate steps BleAction.proceed).filterMap BleAction.data = [] := by
    simp [List.filterMap_replicate, BleAction.data]
  rw [received, promptActions, List.filterMap_append, tasks, List.append_nil]
  induction frames with
  | nil => rfl
  | cons frame frames inductionHypothesis =>
    obtain ⟨wellFormed, isValid⟩ := valid frame List.mem_cons_self
    have scanned : frameScanner.scan ([] ++ frame.raw) = ([frame], []) :=
      wellFormed.extractFrames_raw
    have later := inductionHypothesis fun other member =>
      valid other (List.mem_cons_of_mem _ member)
    have fed : frameScanner.feed [] (frame.raw :: (frames.map fun frame =>
        BleAction.notify frame.raw).filterMap BleAction.data) =
      (frame :: (frameScanner.feed [] ((frames.map fun frame =>
        BleAction.notify frame.raw).filterMap BleAction.data)).1,
        (frameScanner.feed [] ((frames.map fun frame =>
          BleAction.notify frame.raw).filterMap BleAction.data)).2) := by
      rw [Streaming.Scanner.feed, scanned]
      rfl
    change (frameScanner.feed [] (frame.raw :: _)).1.filter _ = _
    rw [fed, List.filter_cons_of_pos isValid, later]

theorem promptActions_patient (frames : List Frame) (steps : Nat) :
    ∀ action ∈ promptActions frames steps, action.Patient := by
  intro action member
  rcases List.mem_append.mp member with isNotify | isTask
  · obtain ⟨frame, _, rfl⟩ := List.mem_map.mp isNotify
    trivial
  · rw [List.eq_of_mem_replicate isTask]
    trivial

def sampleRegistration : Frame :=
  builtFrame marker7e [0x00, 0x00, 0x00, 0x00] 0x02
    ([0x01, 0x00, 0x01, 0x31, 0x01, 0x41] ++ List.replicate 22 0x00) endE7

/-- The frames of a bootstrap, with one in between that nobody waits for, and then the answers. -/
def sampleFrames (answers : List Frame) : List Frame :=
  sampleRegistration :: commandFrame altHighByte [0x00, 0x00, 0x01] fnScan [0x06, 0x00] ::
    bareFrame [0, 0, 0, 0] :: bareFrame [0] :: answers

theorem sampleFrames_valid {answers : List Frame}
    (valid : ∀ frame ∈ answers, frame.WellFormed ∧ frame.validCrc = true) :
    ∀ frame ∈ sampleFrames answers, frame.WellFormed ∧ frame.validCrc = true := by
  intro frame member
  simp only [sampleFrames, List.mem_cons] at member
  rcases member with rfl | rfl | rfl | rfl | further
  · exact ⟨builtFrame_wellFormed (.inl ⟨rfl, rfl⟩) rfl (by decide), rfl⟩
  · exact ⟨commandFrame_wellFormed rfl _ _ (by decide), rfl⟩
  · exact ⟨builtFrame_wellFormed (.inl ⟨rfl, rfl⟩) rfl (by decide), rfl⟩
  · exact ⟨builtFrame_wellFormed (.inl ⟨rfl, rfl⟩) rfl (by decide), rfl⟩
  · exact valid frame further

/-- The answers to the selection and to the credentials, but none to the commit. -/
def sampleAnswers : List Frame :=
  [commandFrame altHighByte [0x00, 0x00, 0x01] fnSelect [],
    commandFrame altHighByte [0x00, 0x00, 0x01] fnSetCreds []]

theorem sampleAnswers_valid :
    ∀ frame ∈ sampleAnswers, frame.WellFormed ∧ frame.validCrc = true := by
  intro frame member
  simp only [sampleAnswers, List.mem_cons, List.not_mem_nil, or_false] at member
  rcases member with rfl | rfl
  · exact ⟨commandFrame_wellFormed rfl _ _ (by decide), rfl⟩
  · exact ⟨commandFrame_wellFormed rfl _ _ (by decide), rfl⟩

/-- The session ends with the wait for the confirmation. -/
theorem sample_ran : ∃ final trace,
    run bleMachine (.start (provisionSession ['x'] "schlüssel".toList))
      (promptActions (sampleFrames sampleAnswers) 12) = some (final, trace) ∧
        final.party.AtRest := by
  have delivered := run_notified (sampleFrames_valid sampleAnswers_valid)
    (provisionSession ['x'] "schlüssel".toList) []
  have stepped : ∃ final trace, run bleMachine ⟨[], ⟨provisionSession ['x'] "schlüssel".toList,
      sampleFrames sampleAnswers⟩⟩ (List.replicate 12 .proceed) = some (final, trace) ∧
        final.party.AtRest := ⟨_, _, rfl, rfl⟩
  obtain ⟨final, trace, continued, rests⟩ := stepped
  exact ⟨final, _, run_trans delivered continued, rests⟩

/-! ## Whole sessions -/

/-- What may be said and heard in `provision`, and the serial that it returns. -/
def provisionPlan (ssid passphrase : Text) : Plan Frame Bytes Text :=
  bootstrapPlan.andThen fun result turns ending =>
    ∃ stored, CredentialsPlan result.1 ssid passphrase turns stored ∧
      ending = stored.map fun _ => result.2

/-- What may be said and heard in `list_networks`, and what it returns. -/
def networksPlan : Plan Frame Bytes (Text × List ScannedNetwork) :=
  bootstrapPlan.andThen fun result turns ending =>
    ∃ found, scanPlan result.1 turns found ∧ ending = found.map fun networks => (result.2, networks)

theorem provisionSession_conforms (ssid passphrase : Text) :
    Conforms (provisionSession ssid passphrase) (provisionPlan ssid passphrase) := by
  refine bootstrap_conforms.bind (fun result => ?_) fun result => ?_
  · refine Conforms.map (fun _ => result.2) ?_
    exact (setCredentials_conforms result.1 ssid passphrase).mono fun turns stored plan =>
      ⟨stored, plan, rfl⟩
  · by_cases acceptable : Acceptable ssid passphrase
    · exact ⟨_, _, _, .committed acceptable (isAnswerTo_command result.1 fnSelect)
        (isAnswerTo_command result.1 fnSetCreds) none nofun, rfl⟩
    · exact ⟨_, _, _, .unacceptable acceptable (isAnswerTo_command result.1 fnSelect), rfl⟩

theorem networksSession_conforms : Conforms networksSession networksPlan := by
  refine bootstrap_conforms.bind (fun result => ?_) fun result => ?_
  · refine Conforms.map (fun networks => (result.2, networks)) ?_
    exact (listNetworks_conforms result.1).mono fun turns found plan => ⟨found, plan, rfl⟩
  · exact ⟨_, _, _, ⟨_, isAnswerTo_command result.1 fnScan, rfl, rfl⟩, rfl⟩

/-- A run of a session over notifications keeps to the plan of its dialogue. -/
theorem bleMachine_onPlan {α : Type} {dialogue : BleDialogue α} {plan : Plan Frame Bytes α}
    (conforms : Conforms dialogue plan) {actions : List BleAction} {final : BleSession α}
    {trace : List BleEvent}
    (ran : run bleMachine (.start dialogue) actions = some (final, trace)) :
    OnPlan plan (turns trace) ∧
      (∀ value, final.party.dialogue = .done value → plan (turns trace) (some value)) ∧
      (hearings (turns trace)).Sublist (received actions) := by
  obtain ⟨partyActions, followed, _, delivered⟩ := bleMachine_run ran
  obtain ⟨onPlan, ends⟩ := run_onPlan conforms followed
  refine ⟨onPlan, ends, ?_⟩
  rw [received, ← show (BleSession.start dialogue).buf = [] from rfl, ← delivered]
  exact run_hears followed

/-- **Provisioning keeps to its plan.**  Whatever the inverter sends and whatever fails, every frame
is written only after the frames that it answers have been heard, all of them valid and in the order
in which they came; and the serial is returned only once the commit has been written. -/
theorem provision_onPlan {ssid passphrase : Text} {actions : List BleAction}
    {final : BleSession Text} {trace : List BleEvent}
    (ran : run bleMachine (.start (provisionSession ssid passphrase)) actions =
      some (final, trace)) :
    OnPlan (provisionPlan ssid passphrase) (turns trace) ∧
      (∀ serial, final.party.dialogue = .done serial →
        provisionPlan ssid passphrase (turns trace) (some serial)) ∧
      (hearings (turns trace)).Sublist (received actions) :=
  bleMachine_onPlan (provisionSession_conforms ssid passphrase) ran

theorem provision_onPlan_sample : ∃ final trace,
    run bleMachine (.start (provisionSession ['x'] "schlüssel".toList))
      (promptActions (sampleFrames sampleAnswers) 12) = some (final, trace) ∧
    OnPlan (provisionPlan ['x'] "schlüssel".toList) (turns trace) ∧
    (hearings (turns trace)).Sublist (sampleFrames sampleAnswers) := by
  obtain ⟨final, trace, ran, _⟩ := sample_ran
  have received := received_promptActions (sampleFrames_valid sampleAnswers_valid) 12
  obtain ⟨onPlan, _, heard⟩ := provision_onPlan ran
  exact ⟨final, trace, ran, onPlan, received ▸ heard⟩

/-! ## Listing the networks -/

/-- Everything that is said in the complete conversations has the property. -/
theorem onPlan_says {α : Type} {plan : Plan Frame Bytes α} {property : Bytes → Prop}
    (complete : ∀ turns ending, plan turns ending → ∀ raw, .speaks raw ∈ turns → property raw)
    {conversation : List (Turn Frame Bytes)} (onPlan : OnPlan plan conversation) {raw : Bytes}
    (said : .speaks raw ∈ conversation) : property raw := by
  obtain ⟨before, after, split⟩ := List.append_of_mem said
  obtain ⟨later, ending, planned⟩ := onPlan before _ after split raw rfl
  exact complete _ ending planned raw (by simp)

theorem deriveDeviceTail_length {registration : Frame} {tail : Bytes}
    (derived : deriveDeviceTail registration = .ok tail) : tail.length = 3 := by
  rw [deriveDeviceTail, bootstrapResponseDevice, toBytes_eq_ok (derivedTail_lt _)] at derived
  cases derived
  exact toBig_length 3 _

/-- What a listing may say: a valid frame that answers the bootstrap or asks for a scan. -/
def ListsOnly (raw : Bytes) : Prop :=
  ∃ frame : Frame, frame.WellFormed ∧ frame.raw = raw ∧ frame.validCrc = true ∧
    (frame.start = marker7e ∨
      frame.start = marker7f ∧ frame.func = fnScan ∧ frame.payload = [0x06])

theorem answers_listsOnly {step : Nat} {frame : Frame} {raw : Bytes}
    (answers : Answers step frame raw) : ListsOnly raw := by
  rw [Answers, BootstrapResponder.responseFor] at answers
  cases answered : bootstrapAnswer step frame with
  | none =>
    rw [answered] at answers
    cases answers
  | some answer =>
    have short := (bootstrapAnswer_length answered).1
    rw [answered] at answers
    have replied : bootstrapReply frame answer.1 answer.2 = .ok (some raw) :=
      (Prod.mk.inj answers).2
    rw [bootstrapReply] at replied
    cases first : item frame.device 0 with
    | error raised =>
      rw [first] at replied
      cases replied
    | ok byte =>
      rw [first, ok_bind, bootstrapResponse_eq _ _ _ (by omega)] at replied
      cases replied
      refine ⟨_, builtFrame_wellFormed (.inl ⟨rfl, rfl⟩) ?_ (by omega), rfl, rfl, .inl rfl⟩
      rw [List.length_cons, toBig_length]

theorem networksPlan_listsOnly (turns : List (Turn Frame Bytes))
    (ending : Option (Text × List ScannedNetwork)) (planned : networksPlan turns ending) :
    ∀ raw, .speaks raw ∈ turns → ListsOnly raw := by
  intro raw said
  rcases planned with ⟨before, result, later, rfl, started, found, scan, _⟩ | ⟨_, started⟩
  · obtain ⟨exchange, rfl, result⟩ := started
    obtain ⟨answer, _, rfl, _⟩ := scan
    obtain rfl := (Option.some.inj result)
    rcases List.mem_append.mp said with bootstrapped | scanned
    · simp only [BootstrapExchange.turns, List.mem_cons, Turn.speaks.injEq, reduceCtorEq,
        List.not_mem_nil, or_false, false_or] at bootstrapped
      rcases bootstrapped with rfl | rfl | rfl
      · exact answers_listsOnly exchange.firstAnswers
      · exact answers_listsOnly exchange.secondAnswers
      · exact answers_listsOnly exchange.thirdAnswers
    · simp only [List.mem_cons, Turn.speaks.injEq, reduceCtorEq, List.not_mem_nil, or_false]
        at scanned
      obtain rfl := scanned
      have width := deriveDeviceTail_length exchange.derived
      exact ⟨_, commandFrame_wellFormed width altHighByte fnScan (by decide), rfl, rfl,
        .inr ⟨rfl, rfl, rfl⟩⟩
  · obtain ⟨exchange, _, ended⟩ := started
    cases ended

/-- **Listing changes nothing.**  Whatever the inverter sends and whatever fails, a listing of the
networks writes valid frames that answer the bootstrap or ask for a scan, and nothing else, each
after the frames that it answers; and it returns the serial and the networks that it has heard. -/
theorem networks_onPlan {actions : List BleAction}
    {final : BleSession (Text × List ScannedNetwork)} {trace : List BleEvent}
    (ran : run bleMachine (.start networksSession) actions = some (final, trace)) :
    OnPlan networksPlan (turns trace) ∧
      (∀ raw, .speaks raw ∈ turns trace → ListsOnly raw) ∧
      (∀ result, final.party.dialogue = .done result →
        networksPlan (turns trace) (some result)) ∧
      (hearings (turns trace)).Sublist (received actions) := by
  obtain ⟨onPlan, ends, heard⟩ := bleMachine_onPlan networksSession_conforms ran
  exact ⟨onPlan, fun raw => onPlan_says networksPlan_listsOnly onPlan, ends, heard⟩

/-- The inverter sees no network. -/
theorem networks_onPlan_sample : ∃ final trace,
    run bleMachine (.start networksSession)
      (promptActions (sampleFrames
        [commandFrame altHighByte [0x00, 0x00, 0x01] fnScan [0x06, 0x00]]) 9) =
      some (final, trace) ∧
    final.party.dialogue = .done (['A'], []) ∧ networksPlan (turns trace) (some (['A'], [])) ∧
    ∀ raw, .speaks raw ∈ turns trace → ListsOnly raw := by
  have valid : ∀ frame ∈ sampleFrames [commandFrame altHighByte [0x00, 0x00, 0x01] fnScan
      [0x06, 0x00]], frame.WellFormed ∧ frame.validCrc = true := by
    refine sampleFrames_valid fun frame member => ?_
    rw [List.mem_singleton.mp member]
    exact ⟨commandFrame_wellFormed rfl _ _ (by decide), rfl⟩
  have delivered := run_notified valid networksSession []
  have stepped : ∃ final trace, run bleMachine ⟨[], ⟨networksSession, sampleFrames [commandFrame
      altHighByte [0x00, 0x00, 0x01] fnScan [0x06, 0x00]]⟩⟩ (List.replicate 9 .proceed) =
        some (final, trace) ∧ final.party.dialogue = .done (['A'], []) := ⟨_, _, rfl, rfl⟩
  obtain ⟨final, trace, continued, isDone⟩ := stepped
  have ran := run_trans delivered continued
  obtain ⟨_, listsOnly, ends, _⟩ := networks_onPlan ran
  exact ⟨final, _, ran, isDone, ends _ isDone, listsOnly⟩

end FoxessGateway.Provisioning
