import FoxessGateway.Provisioning.Conversation

/-! # Provisioning completes

Where the inverter sends what a session waits for, with any other frames in between and in
notifications of any size, and nothing fails or times out, `provision` ends with its serial. -/

namespace FoxessGateway.Provisioning

open ByteOrder Protocol Dialogues Dialogue Runs

/-! ## The frames that are waited for -/

abbrev Script := List ((Frame → Bool) × Frame)

def bootstrapScript (registration second third : Frame) : Script :=
  [(bootstrapFrame.accepts, registration), (bootstrapFrame.accepts, second),
    (bootstrapFrame.accepts, third)]

def credentialsScript (selected stored : Frame) : Script :=
  [((answerTo fnSelect).accepts, selected), ((answerTo fnSetCreds).accepts, stored)]

theorem feed_wellFormed {buffer : Bytes} {reads : List Bytes} {frame : Frame}
    (fed : frame ∈ (frameScanner.feed buffer reads).1) : frame.WellFormed := by
  induction reads generalizing buffer with
  | nil => cases fed
  | cons read reads inductionHypothesis =>
    rw [Streaming.Scanner.feed] at fed
    rcases List.mem_append.mp fed with here | later
    · exact extractFrames_wellFormed here
    · exact inductionHypothesis later

theorem received_wellFormed {actions : List BleAction} {frame : Frame}
    (member : frame ∈ received actions) : frame.WellFormed :=
  feed_wellFormed (List.mem_filter.mp member).1

theorem wellFormed_device {frame : Frame} (wellFormed : frame.WellFormed) :
    frame.device.length = 4 := by
  obtain ⟨long, _, _, _, device, _⟩ := parseFrame_ok wellFormed.parsed
  rw [device, slice_length frame.raw (by omega)]

/-- Every frame that the responder waits for is answered. -/
theorem isStep_answers {step : Nat} {frame : Frame} (isStep : IsStep step frame)
    (device : frame.device.length = 4) : ∃ raw, Answers step frame raw := by
  have answered : ∃ answer, bootstrapAnswer step frame = some answer := by
    match step, isStep with
    | 0, registers => exact ⟨_, if_pos ⟨rfl, registers⟩⟩
    | 1, kind => exact ⟨(0x80, []), by simp [bootstrapAnswer, kind.1, kind.2]⟩
    | 2, kind => exact ⟨(0x81, [0x01]), by simp [bootstrapAnswer, kind.1, kind.2]⟩
  obtain ⟨answer, answered⟩ := answered
  have short := (bootstrapAnswer_length answered).1
  obtain ⟨raw, replied⟩ := bootstrapReply_eq device answer.1
    (show answer.2.length < 256 ^ 2 by omega)
  refine ⟨raw, ?_⟩
  rw [Answers, BootstrapResponder.responseFor, answered]
  exact congrArg (Prod.mk _) replied

theorem deriveDeviceTail_eq (registration : Frame) :
    ∃ tail, deriveDeviceTail registration = .ok tail := by
  rw [deriveDeviceTail, bootstrapResponseDevice, toBytes_eq_ok (derivedTail_lt _)]
  exact ⟨_, rfl⟩

/-! ## The bootstrap -/

theorem listen_await {α : Type} {wanted : Wanted} {frame : Frame} {skipped : List Frame}
    (refused : ∀ other ∈ skipped, ¬ wanted.accepts other = true)
    (accepted : wanted.accepts frame = true) (next : Frame → BleDialogue α) (inbox : List Frame) :
    listen ((awaitFrame wanted).bind next) (skipped ++ frame :: inbox) =
      (.hears frame :: (listen (next frame) inbox).1, (listen (next frame) inbox).2) :=
  (listen_hear_append refused _ _ _).trans (listen_hear_accepted accepted _ _ _)

/-- A round says its answer, and hears the next frame if it is not the last. -/
theorem bootstrapRounds_answers {rounds step : Nat} {frame : Frame} {raw : Bytes} (early : step < 3)
    (answers : Answers step frame raw) :
    bootstrapRounds (rounds + 1) ⟨step⟩ frame =
      .say raw (if step + 1 ≥ 3 then .done () else (awaitFrame bootstrapFrame).bind fun current =>
        bootstrapRounds rounds ⟨step + 1⟩ current) := by
  rw [Answers] at answers
  rw [bootstrapRounds, if_pos early, answers]
  rfl

theorem listen_round {rounds step : Nat} {frame current : Frame} {raw : Bytes}
    (early : step + 1 < 3) (answers : Answers step frame raw) {skipped : List Frame}
    (refused : ∀ other ∈ skipped, ¬ bootstrapFrame.accepts other = true)
    (accepted : bootstrapFrame.accepts current = true) (inbox : List Frame) :
    listen (bootstrapRounds (rounds + 1) ⟨step⟩ frame) (skipped ++ current :: inbox) =
      (.speaks raw :: .hears current ::
          (listen (bootstrapRounds rounds ⟨step + 1⟩ current) inbox).1,
        (listen (bootstrapRounds rounds ⟨step + 1⟩ current) inbox).2) := by
  rw [bootstrapRounds_answers (by omega) answers, if_neg (by omega), Dialogues.listen,
    listen_await refused accepted]

theorem listen_lastRound {rounds : Nat} {frame : Frame} {raw : Bytes}
    (answers : Answers 2 frame raw) (inbox : List Frame) :
    listen (bootstrapRounds (rounds + 1) ⟨2⟩ frame) inbox = ([.speaks raw], ⟨.done (), inbox⟩) := by
  rw [bootstrapRounds_answers (by decide) answers]
  rfl

theorem bootstrapFrom_eq {registration : Frame} (registers : isRegistration registration = true)
    {tail : Bytes} (derived : deriveDeviceTail registration = .ok tail) :
    bootstrapFrom registration = (bootstrapRounds 3 ⟨0⟩ registration).bind fun _ =>
      .done (tail, (registrationSerial registration).getD []) := by
  rw [bootstrapFrom, if_neg (by simp [registers]), derived]
  rfl

/-- Once the three frames have come, the bootstrap is complete. -/
theorem listen_bootstrap (exchange : BootstrapExchange) {script : Script} {inbox rest : List Frame}
    (brings : Brings
      (bootstrapScript exchange.registration exchange.second exchange.third ++ script) inbox rest) :
    ∃ later, Brings script later rest ∧
      listen bootstrap inbox =
        (exchange.turns, ⟨.done (exchange.tail, exchange.serial), later⟩) := by
  -- each wait skips what it refuses and goes on behind the frame that it accepts
  obtain ⟨skipped, _, rfl, refused, accepted, brings⟩ := brings.split
  obtain ⟨skipped', _, rfl, refused', accepted', brings⟩ := brings.split
  obtain ⟨skipped'', later, rfl, refused'', accepted'', brings⟩ := brings.split
  refine ⟨later, brings, ?_⟩
  change listen ((awaitFrame bootstrapFrame).bind bootstrapFrom) _ = _
  rw [listen_await refused accepted, bootstrapFrom_eq exchange.registers exchange.derived,
    listen_bind, listen_round (by decide) exchange.firstAnswers refused' accepted',
    listen_round (by decide) exchange.secondAnswers refused'' accepted'',
    listen_lastRound exchange.thirdAnswers]
  rfl

/-! ## The credentials -/

/-- The conversation about the credentials, up to the commit. -/
def committing (tail : Bytes) (ssid passphrase : Text) (selected stored : Frame) :
    List (Turn Frame Bytes) :=
  [.speaks (selectFrame tail).raw, .hears selected,
    .speaks (credentialsFrame tail ssid passphrase).raw, .hears stored,
    .speaks (commitFrame tail).raw]

/-- The wait for the confirmation, which may fail. -/
def awaitConfirmation : BleDialogue Unit :=
  .hear (answerTo fnCommit).accepts (fun _ => .done ()) fun _ => .done ()

theorem listen_setCredentials (tail : Bytes) {ssid passphrase : Text}
    (acceptable : Acceptable ssid passphrase) {selected stored : Frame} {inbox rest : List Frame}
    (brings : Brings (credentialsScript selected stored) inbox rest) :
    listen (setCredentials tail ssid passphrase) inbox =
      (committing tail ssid passphrase selected stored ++ (listen awaitConfirmation rest).1,
        (listen awaitConfirmation rest).2) := by
  obtain ⟨skipped, _, rfl, refused, accepted, brings⟩ := brings.split
  obtain ⟨skipped', later, rfl, refused', accepted', brings⟩ := brings.split
  cases brings with
  | done =>
    rw [setCredentials, makeSelectRequest_eq, makeCommit_eq, makeSetCredentials_eq tail acceptable]
    change listen (.say (selectFrame tail).raw ((awaitFrame (answerTo fnSelect)).bind fun _ =>
      .say (credentialsFrame tail ssid passphrase).raw ((awaitFrame (answerTo fnSetCreds)).bind
        fun _ => .say (commitFrame tail).raw awaitConfirmation))) _ = _
    rw [Dialogues.listen, listen_await refused accepted, Dialogues.listen,
      listen_await refused' accepted', Dialogues.listen]
    rfl

/-- The confirmation is the first frame that answers the commit. -/
theorem listen_awaitConfirmation (rest : List Frame) :
    (listen awaitConfirmation rest).1 =
      (rest.find? (answerTo fnCommit).accepts).toList.map .hears ∧
    match rest.find? (answerTo fnCommit).accepts with
    | some _ => (listen awaitConfirmation rest).2.dialogue = .done ()
    | none => (listen awaitConfirmation rest).2 = ⟨awaitConfirmation, []⟩ := by
  induction rest with
  | nil => exact ⟨rfl, rfl⟩
  | cons frame rest inductionHypothesis =>
    by_cases accepted : (answerTo fnCommit).accepts frame = true
    · rw [awaitConfirmation, listen_hear_accepted accepted, List.find?_cons_of_pos accepted]
      exact ⟨rfl, rfl⟩
    · rw [awaitConfirmation, listen_hear_refused accepted, List.find?_cons_of_neg accepted]
      exact inductionHypothesis

/-! ## Whole sessions -/

/-- A patient run of a session that has come to rest holds the one conversation about the frames
that it has received. -/
theorem bleMachine_listen {α : Type} {dialogue : BleDialogue α} {actions : List BleAction}
    {final : BleSession α} {trace : List BleEvent} (patient : ∀ action ∈ actions, action.Patient)
    (ran : run bleMachine (.start dialogue) actions = some (final, trace))
    (rests : final.party.AtRest) :
    listen dialogue (received actions) = (turns trace, final.party) := by
  obtain ⟨partyActions, followed, isPatient, delivered⟩ := bleMachine_run ran
  have held := run_listen (isPatient patient) followed rests
  rwa [delivered] at held

/-- The exchange of three frames that have been received. -/
theorem exists_exchange {registration second third : Frame} (registers : IsStep 0 registration)
    (secondKind : IsStep 1 second) (thirdKind : IsStep 2 third)
    (wellFormed : ∀ frame ∈ [registration, second, third], frame.WellFormed) :
    ∃ exchange : BootstrapExchange, exchange.registration = registration ∧
      exchange.second = second ∧ exchange.third = third := by
  obtain ⟨firstAnswer, firstAnswers⟩ :=
    isStep_answers registers (wellFormed_device (wellFormed registration (by simp)))
  obtain ⟨secondAnswer, secondAnswers⟩ :=
    isStep_answers secondKind (wellFormed_device (wellFormed second (by simp)))
  obtain ⟨thirdAnswer, thirdAnswers⟩ :=
    isStep_answers thirdKind (wellFormed_device (wellFormed third (by simp)))
  obtain ⟨tail, derived⟩ := deriveDeviceTail_eq registration
  exact ⟨⟨registration, second, third, firstAnswer, secondAnswer, thirdAnswer, tail, registers,
    secondKind, thirdKind, firstAnswers, secondAnswers, thirdAnswers, derived⟩, rfl, rfl, rfl⟩

/-- **Provisioning completes.**  However the frames come in, and whatever other frames come between
them, a session to which the inverter sends what it waits for, in which no write fails and no wait
before the last is given up, holds the whole conversation, and returns the serial as soon as the
commit has been confirmed or the wait for that is given up. -/
theorem provision_completes {ssid passphrase : Text} (acceptable : Acceptable ssid passphrase)
    {registration second third selected stored : Frame} {rest : List Frame}
    (registers : IsStep 0 registration) (secondKind : IsStep 1 second) (thirdKind : IsStep 2 third)
    {actions : List BleAction}
    (brings : Brings
      (bootstrapScript registration second third ++ credentialsScript selected stored)
      (received actions) rest)
    (patient : ∀ action ∈ actions, action.Patient) {final : BleSession Text} {trace : List BleEvent}
    (ran : run bleMachine (.start (provisionSession ssid passphrase)) actions =
      some (final, trace))
    (rests : final.party.AtRest) :
    ∃ exchange : BootstrapExchange, exchange.registration = registration ∧
      exchange.second = second ∧ exchange.third = third ∧
      turns trace = exchange.turns ++ committing exchange.tail ssid passphrase selected stored ++
        (rest.find? (answerTo fnCommit).accepts).toList.map .hears ∧
      match rest.find? (answerTo fnCommit).accepts with
      | some _ => final.party.dialogue = .done exchange.serial
      | none => ∀ late, ∃ next, bleMachine final (.timeout late) = some (next, [.gaveUp]) ∧
          next.party.dialogue = .done exchange.serial := by
  have came := fun wait member => received_wellFormed (brings.mem wait member)
  obtain ⟨exchange, rfl, rfl, rfl⟩ := exists_exchange registers secondKind thirdKind (by
    intro frame member
    simp only [List.mem_cons, List.not_mem_nil, or_false] at member
    rcases member with rfl | rfl | rfl
    · exact came (bootstrapFrame.accepts, frame) (by simp [bootstrapScript])
    · exact came (bootstrapFrame.accepts, frame) (by simp [bootstrapScript])
    · exact came (bootstrapFrame.accepts, frame) (by simp [bootstrapScript]))
  refine ⟨exchange, rfl, rfl, rfl, ?_⟩
  have held := bleMachine_listen patient ran rests
  obtain ⟨later, brings, bootstrapped⟩ := listen_bootstrap exchange brings
  have stored' := listen_setCredentials exchange.tail acceptable brings
  change listen (bootstrap.bind fun result =>
    (setCredentials result.1 ssid passphrase).bind fun _ => .done result.2) _ = _ at held
  rw [listen_bind, bootstrapped] at held
  dsimp only at held
  rw [listen_bind, stored'] at held
  obtain ⟨confirmed, ended⟩ := listen_awaitConfirmation rest
  have said : exchange.turns ++ (committing exchange.tail ssid passphrase selected stored ++
      (listen awaitConfirmation rest).1) = exchange.turns ++
        committing exchange.tail ssid passphrase selected stored ++
          (rest.find? (answerTo fnCommit).accepts).toList.map .hears := by
    rw [confirmed, List.append_assoc]
  rw [← said]
  cases found : rest.find? (answerTo fnCommit).accepts with
  | some confirmation =>
    rw [found] at ended
    dsimp only at ended
    rw [ended] at held
    obtain ⟨conversation, isFinal⟩ := Prod.mk.inj held
    refine ⟨?_, (congrArg Party.dialogue isFinal).symm⟩
    rw [← conversation]
    exact congrArg (exchange.turns ++ ·) (List.append_nil _)
  | none =>
    rw [found] at ended
    dsimp only at ended
    rw [ended] at held
    obtain ⟨conversation, isFinal⟩ := Prod.mk.inj held
    refine ⟨conversation.symm, fun late => ?_⟩
    obtain ⟨buf, party⟩ := final
    obtain rfl : _ = party := isFinal
    exact ⟨_, rfl, rfl⟩

/-- The inverter leaves before it confirms the commit. -/
theorem provision_completes_unconfirmed : ∃ final trace exchange,
    run bleMachine (.start (provisionSession ['x'] "schlüssel".toList))
      (promptActions (sampleFrames sampleAnswers) 12) = some (final, trace) ∧
    turns trace = BootstrapExchange.turns exchange ++ committing exchange.tail ['x']
      "schlüssel".toList (commandFrame altHighByte [0x00, 0x00, 0x01] fnSelect [])
      (commandFrame altHighByte [0x00, 0x00, 0x01] fnSetCreds []) ++ [] ∧
    ∀ late, ∃ next, bleMachine final (.timeout late) = some (next, [.gaveUp]) ∧
      next.party.dialogue = .done exchange.serial := by
  obtain ⟨final, trace, ran, rests⟩ := sample_ran
  have received := received_promptActions (sampleFrames_valid sampleAnswers_valid) 12
  have brings : Brings (bootstrapScript sampleRegistration (bareFrame [0, 0, 0, 0]) (bareFrame [0])
      ++ credentialsScript (commandFrame altHighByte [0x00, 0x00, 0x01] fnSelect [])
        (commandFrame altHighByte [0x00, 0x00, 0x01] fnSetCreds []))
      (sampleFrames sampleAnswers) [] :=
    .bring rfl (.refuse (by decide) (.bring rfl (.bring rfl (.bring rfl (.bring rfl (.done []))))))
  have registers : isRegistration sampleRegistration = true := by decide
  obtain ⟨exchange, _, _, _, conversation, ends⟩ :=
    provision_completes ⟨by decide, by decide, by decide, by decide⟩ registers ⟨rfl, rfl⟩ ⟨rfl, rfl⟩
      (received.symm ▸ brings) (promptActions_patient _ 12) ran rests
  exact ⟨final, trace, exchange, ran, conversation, ends⟩

end FoxessGateway.Provisioning
