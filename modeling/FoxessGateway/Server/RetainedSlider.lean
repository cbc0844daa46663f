import FoxessGateway.Mqtt.Discovery
import FoxessGateway.Server.Slider
import FoxessGateway.Server.Wiring

/-! # Whether the slider follows the firmware

After product information the broker should retain a configuration of the slider exactly where the
firmware supports it.  It does where the books are honest: what they say was announced is retained,
and what they say was removed is not. -/

namespace FoxessGateway.Server

open Protocol Effectful Action Runs Mqtt

/-! ## The machine -/

structure SliderConfig where
  session : SessionConfig
  mqtt : MqttConfig
  deviceNames : Dict Text Text

structure SliderWorld where
  /-- The sessions in the order in which they began, and nothing for those that are over. -/
  sessions : List (Option Session)
  broker : BrokerWorld

/-- The daemon has started, and the broker has whatever it retained before. -/
def SliderWorld.start (config : SliderConfig) (retained : Dict Text Payload) : SliderWorld :=
  ⟨[], ⟨.start config.mqtt, retained⟩⟩

def SliderWorld.session (seen : SliderWorld) (place : Nat) : Option Session :=
  seen.sessions[place]?.join

inductive SliderAction where
  | connect
  /-- A session handles a frame, and the broker accepts some of what is published meanwhile. -/
  | frame (session : Nat) (world : SessionWorld) (wire : WireFrame) (sendBootstrap : Bool)
    (accepts : Message → Bool)
  | other (session : Nat) (activity : OtherActivity)
  /-- A session handles no more frames. -/
  | ended (session : Nat)
  /-- Whatever else the publisher, its clients and the broker do. -/
  | mqtt (step : MqttStep)

def sliderMachine (config : SliderConfig) : Machine SliderWorld SliderAction MqttEffect :=
  fun seen action =>
  match action with
  | .connect =>
    some ({ seen with sessions := seen.sessions ++ [some (.fresh config.session)] }, [])
  | .frame session world wire sendBootstrap accepts =>
    (seen.session session).bind fun before =>
      let outcome := (clientFrame config.session world wire.frame sendBootstrap).run before
      let operations := outcome.effects.filterMap SessionEffect.operation
      (run (brokerMachine config.mqtt config.deviceNames) seen.broker
        (operationSteps accepts operations)).map fun reached =>
          (⟨seen.sessions.set session (some outcome.state), reached.1⟩, reached.2)
  | .other session activity =>
    (seen.session session).map fun before =>
      ({ seen with sessions := seen.sessions.set session (some (activity.change before)) }, [])
  | .ended session => some ({ seen with sessions := seen.sessions.set session none }, [])
  | .mqtt step =>
    -- only sessions announce and remove the slider
    if step.action.isSlider = true then none
    else (brokerMachine config.mqtt config.deviceNames seen.broker step).map fun reached =>
      ({ seen with broker := reached.1 }, reached.2)

/-! ## Following -/

namespace SliderWorld

variable (config : SliderConfig) (seen : SliderWorld)

/-- The broker retains a slider for the serial. -/
def Shows (serial : Text) : Prop := seen.broker.Shows config.mqtt serial

/-- After product information, on a connection that takes everything, the slider is retained
exactly where the model and the firmware support it. -/
def Follows (action : SliderAction) : Prop :=
  match action with
  | .frame session _ wire _ accepts =>
    wire.frame.validCrc = true → (productInfo wire.frame).isSome = true →
      seen.broker.Takes accepts →
      ∀ next shown, sliderMachine config seen action = some (next, shown) →
        ∀ after serial supported, next.session session = some after →
          after.localControl.isSome = true → after.knownSerial = some serial →
          supportsActivePowerLimit after.model after.firmware = .ok supported →
          (next.Shows config serial ↔ supported = true)
  | _ => True

/-- The slider is announced now or retained already, or it is removed now or not retained. -/
def WillFollow (action : SliderAction) : Prop :=
  match action with
  | .frame session _ wire _ accepts =>
    wire.frame.validCrc = true → seen.broker.Takes accepts →
      ∀ before info serial supported, seen.session session = some before →
        productInfo wire.frame = some info → before.localControl.isSome = true →
        before.knownSerial = some serial →
        supportsActivePowerLimit (textOr info.model before.model)
          (textOr info.firmware before.firmware) = .ok supported →
        if supported = true then
          before.inverterControlCommandRegistered = false ∧
              serial ∉ seen.broker.mqtt.publisher.activePowerLimitAnnounced ∨
            seen.Shows config serial
        else
          serial ∉ seen.broker.mqtt.publisher.activePowerLimitCleared ∨ ¬ seen.Shows config serial
  | _ => True

/-- A session that counts the slider of the serial as announced. -/
def Flagged (session : Nat) (serial : Text) : Prop :=
  ∃ before, seen.session session = some before ∧
    before.inverterControlCommandRegistered = true ∧ before.knownSerial = some serial

/-- The slider of the serial can be removed: the removal is accepted or there is nothing to remove,
and no other session counts on it. -/
def MayWithdraw (accepts : Message → Bool) (session : Nat) (serial : Text) : Prop :=
  (seen.broker.mqtt.publisher.client = none ∨ seen.broker.Takes accepts ∨
    ¬ seen.Shows config serial) ∧
  ∀ other, other ≠ session → ¬ seen.Flagged other serial

/-- The frame leaves the books honest. -/
def KeepsBooks (action : SliderAction) : Prop :=
  match action with
  | .frame session _ wire _ accepts =>
    ∀ before, seen.session session = some before → wire.frame.validCrc = true →
      (∀ serial, isRegistration wire.frame = true → registrationSerial wire.frame = some serial →
        serial ≠ [] → before.inverterControlCommandRegistered = false ∧
          seen.MayWithdraw config accepts session serial) ∧
      ∀ info serial, productInfo wire.frame = some info → before.knownSerial = some serial →
        before.localControl.isSome = true →
        if (before.control.know info).Supported then
          before.inverterControlCommandRegistered = true ∨ seen.broker.Takes accepts ∨
            seen.Shows config serial
        else seen.MayWithdraw config accepts session serial
  | _ => True

/-- The books say of the slider what the broker retains. -/
structure Honest : Prop where
  announced : ∀ serial ∈ seen.broker.mqtt.publisher.activePowerLimitAnnounced,
    seen.Shows config serial
  cleared : ∀ serial ∈ seen.broker.mqtt.publisher.activePowerLimitCleared,
    ¬ seen.Shows config serial
  flagged : ∀ session serial, seen.Flagged session serial → seen.Shows config serial

/-- There is a client only where there is a broker. -/
def Enabled : Prop := seen.broker.mqtt.publisher.client ≠ none → config.mqtt.enabled = true

end SliderWorld

/-! ## Frames -/

section Frames

variable {config : SliderConfig} {seen next : SliderWorld} {session : Nat} {world : SessionWorld}
  {wire : WireFrame} {sendBootstrap : Bool} {accepts : Message → Bool} {shown : List MqttEffect}

theorem session_set {sessions : List (Option Session)} {broker broker' : BrokerWorld}
    {before : Session} (found : (⟨sessions, broker⟩ : SliderWorld).session session = some before)
    (after : Option Session) (other : Nat) :
    (⟨sessions.set session after, broker'⟩ : SliderWorld).session other =
      if other = session then after
      else (⟨sessions, broker⟩ : SliderWorld).session other := by
  rw [SliderWorld.session, SliderWorld.session, List.getElem?_set]
  by_cases same : session = other
  · obtain ⟨bound, _⟩ := List.getElem?_eq_some_iff.mp (Option.join_eq_some_iff.mp found)
    rw [if_pos same, if_pos same.symm, if_pos bound]
    rfl
  · rw [if_neg same, if_neg fun isSame => same isSame.symm]

/-- What a frame leaves: the session as it is after it, and what the operations did. -/
theorem sliderMachine_frame
    (stepped : sliderMachine config seen (.frame session world wire sendBootstrap accepts) =
      some (next, shown)) :
    ∃ before after operations, seen.session session = some before ∧
      (∀ other, next.session other = if other = session then some after else seen.session other) ∧
      after.control = (before.control.frame world.time wire.frame).1 ∧
      operations.filter (·.action.isSlider) =
        (before.control.frame world.time wire.frame).2.filterMap SessionEffect.sliderPartner ∧
      run (brokerMachine config.mqtt config.deviceNames) seen.broker
        (operationSteps accepts operations) = some (next.broker, shown) := by
  obtain ⟨before, found, later⟩ := Option.bind_eq_some_iff.mp stepped
  obtain ⟨⟨broker, effects⟩, ran, same⟩ := Option.map_eq_some_iff.mp later
  cases same
  obtain ⟨control, _⟩ :=
    Daemon.clientFrame_controls config.session world wire sendBootstrap before
  exact ⟨before, _, _, found, session_set found _, control,
    clientFrame_sliderOperations config.session world wire sendBootstrap before, ran⟩

/-- Bringing the handler and the slider in line changes nothing that is known of the inverter. -/
theorem sync_known (view : ControlView) :
    view.sync.1.serial = view.serial ∧ view.sync.1.hasControl = view.hasControl ∧
      view.sync.1.model = view.model ∧ view.sync.1.firmware = view.firmware := by
  have settled (view : ControlView) : view.settle.1.serial = view.serial ∧
      view.settle.1.hasControl = view.hasControl ∧ view.settle.1.model = view.model ∧
      view.settle.1.firmware = view.firmware := by
    obtain same | ⟨_, _, same⟩ := view.settle_cases
    · rw [same]
      exact ⟨rfl, rfl, rfl, rfl⟩
    · rw [same]
      exact ⟨rfl, rfl, rfl, rfl⟩
  obtain ⟨_, same⟩ | ⟨serial, _, _, ⟨_, same⟩ | ⟨_, same⟩⟩ := view.sync_cases
  · rw [same]
    exact ⟨rfl, rfl, rfl, rfl⟩
  · rw [same]
    obtain ⟨_, wired⟩ | ⟨_, wired⟩ := view.wire_cases serial
    · rw [wired]
      exact settled view
    · rw [wired]
      exact settled _
  · rw [same]
    exact ⟨rfl, rfl, rfl, rfl⟩

/-- What product information does to the session and with the slider of its serial. -/
theorem productInfo_slider {info : ProductInfo} (valid : wire.frame.validCrc = true)
    (parsed : productInfo wire.frame = some info)
    (stepped : sliderMachine config seen (.frame session world wire sendBootstrap accepts) =
      some (next, shown)) :
    ∃ before after, seen.session session = some before ∧ next.session session = some after ∧
      after.localControl.isSome = before.localControl.isSome ∧
      after.knownSerial = before.knownSerial ∧
      after.model = textOr info.model before.model ∧
      after.firmware = textOr info.firmware before.firmware ∧
      ∀ serial supported, before.knownSerial = some serial → before.localControl.isSome = true →
        supportsActivePowerLimit after.model after.firmware = .ok supported →
        if supported = true then
          if before.inverterControlCommandRegistered = true then
            seen.broker.Alike config.mqtt next.broker
          else Announces config.mqtt accepts serial seen.broker next.broker
        else Withdraws config.mqtt accepts serial seen.broker next.broker := by
  obtain ⟨before, after, operations, found, sessions, control, filtered, ran⟩ :=
    sliderMachine_frame stepped
  rw [before.control.frame_eq_productInfo _ valid parsed, ControlView.productInfo]
    at control filtered
  obtain ⟨sameSerial, sameControl, sameModel, sameFirmware⟩ :=
    sync_known (before.control.know info)
  rw [← control] at sameSerial sameControl sameModel sameFirmware
  refine ⟨before, after, found, by rw [sessions, if_pos rfl], sameControl,
    congrArg (Option.filter (· ≠ [])) sameSerial, sameModel, sameFirmware, ?_⟩
  intro serial supported isSerial controlled checked
  have checkedView : supportsActivePowerLimit (before.control.know info).model
      (before.control.know info).firmware = .ok supported := by
    rw [← checked, ← show after.control.model = after.model from rfl, sameModel]
    exact congrArg _ sameFirmware.symm
  obtain ⟨unsynced, _⟩ | ⟨known, isKnown, _, ⟨isSupported, synced⟩ | ⟨unsupported, synced⟩⟩ :=
    (before.control.know info).sync_cases
  · rcases unsynced with noSerial | noControl | ⟨raised, failed⟩
    · cases noSerial.symm.trans isSerial
    · cases noControl.symm.trans controlled
    · cases failed.symm.trans checkedView
  · obtain rfl : known = serial := Option.some.inj (isKnown.symm.trans isSerial)
    cases isSupported.symm.trans checkedView
    rw [if_pos rfl]
    rw [synced, List.filterMap_append, (settle_slider _).2.2, List.append_nil] at filtered
    obtain ⟨registered, wired⟩ | ⟨unwired, wired⟩ := (before.control.know info).wire_cases known
    · rw [wired] at filtered
      rw [if_pos (show before.inverterControlCommandRegistered = true from registered)]
      exact operations_alike filtered ran
    · rw [wired] at filtered
      have notRegistered : ¬ before.inverterControlCommandRegistered = true := by
        rw [show before.inverterControlCommandRegistered = false from unwired]
        exact Bool.false_ne_true
      rw [if_neg notRegistered]
      exact operations_announce filtered ran
  · obtain rfl : known = serial := Option.some.inj (isKnown.symm.trans isSerial)
    cases supported with
    | true => exact absurd checkedView unsupported
    | false =>
      rw [synced] at filtered
      exact operations_withdraw filtered ran

theorem sliderMachine_frame_some {before : Session} (found : seen.session session = some before)
    (config : SliderConfig) (world : SessionWorld) (wire : WireFrame) (sendBootstrap : Bool)
    (accepts : Message → Bool) :
    ∃ next shown, sliderMachine config seen (.frame session world wire sendBootstrap accepts) =
      some (next, shown) := by
  obtain ⟨broker, shown, ran⟩ := operations_ran config.mqtt config.deviceNames seen.broker accepts
    (((clientFrame config.session world wire.frame sendBootstrap).run before).effects.filterMap
      SessionEffect.operation)
  rw [sliderMachine, found, Option.bind_some]
  dsimp only
  rw [ran]
  exact ⟨_, _, rfl⟩

/-- A broker that takes what is published is one that serials are not skipped for. -/
theorem not_skips (enabled : seen.Enabled config) (takes : seen.broker.Takes accepts)
    {serial : Text} (nonempty : serial ≠ []) :
    ¬ seen.broker.mqtt.publisher.Skips config.mqtt serial := by
  obtain ⟨⟨client, _, isClient, _⟩, _⟩ := takes
  have some : seen.broker.mqtt.publisher.client ≠ none := by
    rw [isClient]
    exact Option.some_ne_none client
  rintro (disabled | none | empty)
  · exact Bool.false_ne_true (disabled.symm.trans (enabled some))
  · exact some none
  · exact nonempty empty

theorem knownSerial_nonempty {before : Session} {serial : Text}
    (known : before.knownSerial = some serial) : serial ≠ [] :=
  of_decide_eq_true (Option.filter_eq_some_iff.mp known).2

/-- **One product information.**  Whether the slider follows depends on the flag, the books and what
is retained already. -/
theorem productInfo_follows_iff (enabled : seen.Enabled config)
    (valid : wire.frame.validCrc = true) (takes : seen.broker.Takes accepts)
    {before after : Session} {info : ProductInfo} {serial : Text} {supported : Bool}
    (parsed : productInfo wire.frame = some info)
    (stepped : sliderMachine config seen (.frame session world wire sendBootstrap accepts) =
      some (next, shown))
    (found : seen.session session = some before) (left : next.session session = some after)
    (controlled : before.localControl.isSome = true) (known : before.knownSerial = some serial)
    (checked : supportsActivePowerLimit after.model after.firmware = .ok supported) :
    (next.Shows config serial ↔ supported = true) ↔
      if supported = true then
        before.inverterControlCommandRegistered = false ∧
            serial ∉ seen.broker.mqtt.publisher.activePowerLimitAnnounced ∨
          seen.Shows config serial
      else serial ∉ seen.broker.mqtt.publisher.activePowerLimitCleared ∨
        ¬ seen.Shows config serial := by
  obtain ⟨before', after', found', left', _, _, _, _, does⟩ :=
    productInfo_slider valid parsed stepped
  cases found.symm.trans found'
  cases left.symm.trans left'
  have sends := not_skips enabled takes (knownSerial_nonempty known)
  have done := does serial supported known controlled checked
  cases supported with
  | true =>
    rw [if_pos rfl] at done ⊢
    rw [iff_true_right rfl]
    cases registered : before.inverterControlCommandRegistered with
    | true =>
      -- the session counts the slider as announced, and publishes nothing
      rw [registered, if_pos rfl] at done
      rw [SliderWorld.Shows, done.sliders.shows_iff, SliderWorld.Shows]
      simp
    | false =>
      rw [registered, if_neg Bool.false_ne_true] at done
      cases done with
      | known known _ same =>
        have isAnnounced := known.resolve_left sends
        rw [SliderWorld.Shows, same.shows_iff, SliderWorld.Shows]
        simp [isAnnounced]
      | sent _ unknown _ _ kept => exact iff_of_true (kept (.inl takes)) (.inl ⟨rfl, unknown⟩)
  | false =>
    rw [if_neg Bool.false_ne_true] at done ⊢
    rw [iff_false_right Bool.false_ne_true]
    cases done with
    | known known _ same =>
      have isCleared := known.resolve_left sends
      rw [SliderWorld.Shows, same.shows_iff, SliderWorld.Shows]
      simp [isCleared]
    | sent _ unknown _ _ hides => exact iff_of_true (hides (.inl takes)) (.inl unknown)

theorem follows_iff (enabled : seen.Enabled config) (action : SliderAction) :
    seen.Follows config action ↔ seen.WillFollow config action := by
  cases action with
  | frame session world wire sendBootstrap accepts =>
    constructor
    · intro follows valid takes before info serial supported found parsed controlled known checked
      obtain ⟨next, shown, stepped⟩ :=
        sliderMachine_frame_some found config world wire sendBootstrap accepts
      obtain ⟨before', after, found', left, sameControl, sameSerial, sameModel, sameFirmware, _⟩ :=
        productInfo_slider valid parsed stepped
      cases found.symm.trans found'
      rw [← sameModel, ← sameFirmware] at checked
      refine (productInfo_follows_iff enabled valid takes parsed stepped found left controlled known
        checked).mp ?_
      exact follows valid (by rw [parsed]; rfl) takes next shown stepped after serial supported left
        (sameControl.trans controlled) (sameSerial.trans known) checked
    · intro willFollow valid isInfo takes next shown stepped after serial supported left controlled
        known checked
      obtain ⟨info, parsed⟩ := Option.isSome_iff_exists.mp isInfo
      obtain ⟨before, after', found, left', sameControl, sameSerial, sameModel, sameFirmware, _⟩ :=
        productInfo_slider valid parsed stepped
      cases left.symm.trans left'
      rw [sameControl] at controlled
      rw [sameSerial] at known
      refine (productInfo_follows_iff enabled valid takes parsed stepped found left controlled known
        checked).mpr ?_
      rw [sameModel, sameFirmware] at checked
      exact willFollow valid takes before info serial supported found parsed controlled known
        checked
  | _ => exact Iff.rfl

end Frames

/-! ## Honest books -/

section Books

variable {config : SliderConfig} {seen next : SliderWorld} {shown : List MqttEffect}

theorem enabled_step {action : SliderAction} (enabled : seen.Enabled config)
    (stepped : sliderMachine config seen action = some (next, shown)) : next.Enabled config := by
  cases action with
  | connect =>
    cases stepped
    exact enabled
  | frame session world wire sendBootstrap accepts =>
    obtain ⟨_, _, operations, _, _, _, _, ran⟩ := sliderMachine_frame stepped
    apply run_preserves (fun broker : BrokerWorld => broker.mqtt.publisher.client ≠ none →
      config.mqtt.enabled = true) ?_ enabled ran
    intro broker _ _ _ enabled stepped some
    exact (client_step stepped some).elim enabled id
  | other session activity =>
    obtain ⟨before, _, same⟩ := Option.map_eq_some_iff.mp stepped
    cases same
    exact enabled
  | ended session =>
    cases stepped
    exact enabled
  | mqtt step =>
    rw [sliderMachine] at stepped
    split at stepped
    · cases stepped
    · obtain ⟨⟨broker, effects⟩, reached, same⟩ := Option.map_eq_some_iff.mp stepped
      cases same
      exact fun some => (client_step reached some).elim enabled id

/-- The books stay honest where no other session comes to count on a slider, and no more is retained
than before. -/
theorem SliderWorld.Honest.of_forgets (honest : seen.Honest config)
    (forgets : seen.broker.Forgets config.mqtt next.broker)
    (flags : ∀ session serial, next.Flagged session serial → seen.Flagged session serial) :
    next.Honest config where
  announced serial member :=
    (forgets.sliders.shows_iff serial).mpr (honest.announced serial (forgets.announced member))
  cleared serial member shows :=
    honest.cleared serial (forgets.cleared ▸ member) ((forgets.sliders.shows_iff serial).mp shows)
  flagged session serial flagged :=
    (forgets.sliders.shows_iff serial).mpr (honest.flagged session serial (flags _ _ flagged))

theorem SliderWorld.Honest.announce (honest : seen.Honest config) {accepts : Message → Bool}
    {serial : Text} (announces : Announces config.mqtt accepts serial seen.broker next.broker)
    (delivered : ¬ seen.broker.mqtt.publisher.Skips config.mqtt serial ∧ seen.broker.Takes accepts ∨
      seen.Shows config serial)
    {session : Nat} (flags : ∀ other known, next.Flagged other known →
      other = session ∧ known = serial ∨ seen.Flagged other known) :
    next.Honest config := by
  cases announces with
  | known known books same =>
    have shows' : seen.Shows config serial := by
      rcases delivered with ⟨sends, _⟩ | shows'
      · exact honest.announced serial (known.resolve_left sends)
      · exact shows'
    have announced : next.broker.mqtt.publisher.activePowerLimitAnnounced = _ :=
      congrArg (·.2.1) books
    have cleared : next.broker.mqtt.publisher.activePowerLimitCleared = _ :=
      congrArg (·.2.2) books
    constructor
    · intro other member
      rw [announced] at member
      exact (same.shows_iff other).mpr (honest.announced other member)
    · intro other member shown
      rw [cleared] at member
      exact honest.cleared other member ((same.shows_iff other).mp shown)
    · intro other known flagged
      apply (same.shows_iff known).mpr
      rcases flags other known flagged with ⟨_, rfl⟩ | before
      · exact shows'
      · exact honest.flagged other known before
  | sent sends unknown books others kept =>
    have nowShows : next.Shows config serial := kept (delivered.imp_left And.right)
    have announced : next.broker.mqtt.publisher.activePowerLimitAnnounced = _ :=
      congrArg (·.2.1) books
    have cleared : next.broker.mqtt.publisher.activePowerLimitCleared = _ :=
      congrArg (·.2.2) books
    have keeps : ∀ other, seen.Shows config other → next.Shows config other := by
      intro other before
      by_cases same : other = serial
      · rw [same]
        exact nowShows
      · exact (others other same).mpr before
    constructor
    · intro other member
      rw [announced] at member
      rcases Finset.mem_insert.mp member with rfl | before
      · exact nowShows
      · exact keeps other (honest.announced other before)
    · intro other member shows
      rw [cleared] at member
      obtain ⟨before, apart⟩ := Finset.mem_sdiff.mp member
      have isOther : other ≠ serial := fun same => apart (Finset.mem_singleton.mpr same)
      exact honest.cleared other before ((others other isOther).mp shows)
    · intro other known flagged
      rcases flags other known flagged with ⟨_, rfl⟩ | before
      · exact nowShows
      · exact keeps known (honest.flagged other known before)

theorem SliderWorld.Honest.withdraw (honest : seen.Honest config) {accepts : Message → Bool}
    {serial : Text} (withdraws : Withdraws config.mqtt accepts serial seen.broker next.broker)
    (removed : seen.broker.mqtt.publisher.client = none ∨ seen.broker.Takes accepts ∨
      ¬ seen.Shows config serial)
    (flags : ∀ other known, next.Flagged other known →
      known ≠ serial ∧ seen.Flagged other known) : next.Honest config := by
  have sdiff : ∀ other ∈ seen.broker.mqtt.publisher.activePowerLimitAnnounced \ {serial},
      other ∈ seen.broker.mqtt.publisher.activePowerLimitAnnounced ∧ other ≠ serial := by
    intro other member
    obtain ⟨before, apart⟩ := Finset.mem_sdiff.mp member
    exact ⟨before, fun same => apart (Finset.mem_singleton.mpr same)⟩
  cases withdraws with
  | known known books same =>
    have announced : next.broker.mqtt.publisher.activePowerLimitAnnounced = _ :=
      congrArg (·.2.1) books
    have cleared : next.broker.mqtt.publisher.activePowerLimitCleared = _ :=
      congrArg (·.2.2) books
    constructor
    · intro other member
      rw [announced] at member
      exact (same.shows_iff other).mpr (honest.announced other (sdiff other member).1)
    · intro other member shows
      rw [cleared] at member
      exact honest.cleared other member ((same.shows_iff other).mp shows)
    · intro other known flagged
      exact (same.shows_iff known).mpr (honest.flagged other known (flags other known flagged).2)
  | sent sends unknown books others hides =>
    have hidden : ¬ next.Shows config serial :=
      hides (removed.resolve_left fun noClient => sends (.inr (.inl noClient)))
    have announced : next.broker.mqtt.publisher.activePowerLimitAnnounced = _ :=
      congrArg (·.2.1) books
    have cleared : next.broker.mqtt.publisher.activePowerLimitCleared = _ :=
      congrArg (·.2.2) books
    constructor
    · intro other member
      rw [announced] at member
      obtain ⟨before, isOther⟩ := sdiff other member
      exact (others other isOther).mpr (honest.announced other before)
    · intro other member shows
      rw [cleared] at member
      by_cases same : other = serial
      · rw [same] at shows
        exact hidden shows
      · have before := Finset.mem_of_mem_insert_of_ne member same
        exact honest.cleared other before ((others other same).mp shows)
    · intro other known flagged
      obtain ⟨isOther, before⟩ := flags other known flagged
      exact (others known isOther).mpr (honest.flagged other known before)

/-- A flag after a step of one session is the flag of that session, or one from before. -/
theorem flagged_set {session : Nat} {after : Session}
    (sessions : ∀ other, next.session other =
      if other = session then some after else seen.session other) {other : Nat} {serial : Text}
    (flagged : next.Flagged other serial) :
    other = session ∧ after.inverterControlCommandRegistered = true ∧
        after.knownSerial = some serial ∨
      other ≠ session ∧ seen.Flagged other serial := by
  obtain ⟨later, found, registered, known⟩ := flagged
  rw [sessions] at found
  by_cases same : other = session
  · rw [if_pos same] at found
    cases found
    exact .inl ⟨same, registered, known⟩
  · rw [if_neg same] at found
    exact .inr ⟨same, later, found, registered, known⟩

theorem honest_frame {session : Nat} {world : SessionWorld} {wire : WireFrame}
    {sendBootstrap : Bool} {accepts : Message → Bool} (enabled : seen.Enabled config)
    (honest : seen.Honest config)
    (keeps : seen.KeepsBooks config (.frame session world wire sendBootstrap accepts))
    (stepped : sliderMachine config seen (.frame session world wire sendBootstrap accepts) =
      some (next, shown)) : next.Honest config := by
  obtain ⟨before, after, operations, found, sessions, control, filtered, ran⟩ :=
    sliderMachine_frame stepped
  have outcome := sliderOutcome world.time wire.frame before.control
  rw [← control, ← filtered] at outcome
  -- a flag from before this frame
  have earlier {other : Nat} {serial : Text} (flagged : next.Flagged other serial)
      (own : after.inverterControlCommandRegistered = true → after.knownSerial = some serial →
        seen.Flagged session serial) : seen.Flagged other serial := by
    obtain ⟨rfl, registered, known⟩ | ⟨_, before⟩ := flagged_set sessions flagged
    · exact own registered known
    · exact before
  generalize view : after.control = left at outcome
  generalize listed : operations.filter (·.action.isSlider) = sliders at outcome
  have sameFlag : after.inverterControlCommandRegistered = left.registered :=
    congrArg ControlView.registered view
  have sameKnown : after.knownSerial = left.knownSerial := congrArg ControlView.knownSerial view
  cases outcome with
  | kept serial registered =>
    have alike := operations_alike listed ran
    apply honest.of_forgets (.of_books alike.books alike.sliders)
    intro other known flagged
    refine earlier flagged fun isRegistered isKnown => ⟨before, found, ?_, ?_⟩
    · exact registered.symm.trans (sameFlag.symm.trans isRegistered)
    · exact (congrArg (Option.filter (· ≠ [])) serial).symm.trans (sameKnown.symm.trans isKnown)
  | unnamed nothing =>
    have alike := operations_alike listed ran
    apply honest.of_forgets (.of_books alike.books alike.sliders)
    intro other known flagged
    refine earlier flagged fun _ isKnown => ?_
    cases (sameKnown.trans nothing).symm.trans isKnown
  | named valid registers names nonempty =>
    obtain ⟨unflagged, removed, alone⟩ :=
      (keeps before found valid).1 _ registers names nonempty
    apply honest.withdraw (operations_withdraw listed ran) removed
    intro other known flagged
    obtain ⟨_, registered, _⟩ | ⟨apart, flaggedBefore⟩ := flagged_set sessions flagged
    · cases registered.symm.trans (sameFlag.trans unflagged)
    · refine ⟨?_, flaggedBefore⟩
      rintro rfl
      exact alone other apart flaggedBefore
  | wired valid parsed known controlled unwired supported sameSerial registered =>
    have delivered := (keeps before found valid).2 _ _ parsed known controlled
    rw [if_pos supported] at delivered
    apply honest.announce (operations_announce listed ran)
    · rcases delivered with flagged | takes | shows
      · cases flagged.symm.trans unwired
      · exact .inl ⟨not_skips enabled takes (knownSerial_nonempty known), takes⟩
      · exact .inr shows
    · intro other serial flagged
      obtain ⟨same, _, isKnown⟩ | ⟨_, flaggedBefore⟩ := flagged_set sessions flagged
      · refine .inl ⟨same, ?_⟩
        have sameName : after.knownSerial = before.knownSerial :=
          sameKnown.trans (congrArg (Option.filter (· ≠ [])) sameSerial)
        exact Option.some.inj (isKnown.symm.trans (sameName.trans known))
      · exact .inr flaggedBefore
  | withdrawn valid parsed known controlled unsupported =>
    have may := (keeps before found valid).2 _ _ parsed known controlled
    rw [if_neg unsupported] at may
    obtain ⟨removed, alone⟩ := may
    apply honest.withdraw (operations_withdraw listed ran) removed
    intro other serial flagged
    obtain ⟨_, registered, _⟩ | ⟨apart, flaggedBefore⟩ := flagged_set sessions flagged
    · cases registered.symm.trans sameFlag
    · refine ⟨?_, flaggedBefore⟩
      rintro rfl
      exact alone other apart flaggedBefore

/-- The books stay honest under every step that keeps them. -/
theorem honest_step {action : SliderAction} (enabled : seen.Enabled config)
    (honest : seen.Honest config) (keeps : seen.KeepsBooks config action)
    (stepped : sliderMachine config seen action = some (next, shown)) : next.Honest config := by
  cases action with
  | connect =>
    cases stepped
    refine honest.of_forgets (.of_books rfl fun _ => rfl) ?_
    rintro session serial ⟨later, found, registered, known⟩
    rw [SliderWorld.session, List.getElem?_append] at found
    by_cases bound : session < seen.sessions.length
    · rw [if_pos bound] at found
      exact ⟨later, found, registered, known⟩
    · -- a session that has just begun counts on nothing
      rw [if_neg bound] at found
      obtain ⟨_, fresh⟩ := List.getElem?_eq_some_iff.mp (Option.join_eq_some_iff.mp found)
      rw [List.getElem_singleton] at fresh
      cases fresh
      cases registered
  | frame session world wire sendBootstrap accepts =>
    exact honest_frame enabled honest keeps stepped
  | other session activity =>
    obtain ⟨before, found, same⟩ := Option.map_eq_some_iff.mp stepped
    cases same
    refine honest.of_forgets (.of_books rfl fun _ => rfl) ?_
    intro other serial flagged
    have kept := activity.control_kept before
    obtain ⟨rfl, registered, known⟩ | ⟨_, flaggedBefore⟩ :=
      flagged_set (session_set found _) flagged
    · exact ⟨before, found, (congrArg ControlView.registered kept).symm.trans registered,
        (congrArg ControlView.knownSerial kept).symm.trans known⟩
    · exact flaggedBefore
  | ended session =>
    cases stepped
    refine honest.of_forgets (.of_books rfl fun _ => rfl) ?_
    rintro other serial ⟨later, found, registered, known⟩
    rw [SliderWorld.session, List.getElem?_set] at found
    by_cases same : session = other
    · rw [if_pos same] at found
      split at found
      · cases found
      · cases found
    · rw [if_neg same] at found
      exact ⟨later, found, registered, known⟩
  | mqtt step =>
    rw [sliderMachine] at stepped
    split at stepped
    · cases stepped
    · rename_i isOther
      obtain ⟨⟨broker, effects⟩, reached, same⟩ := Option.map_eq_some_iff.mp stepped
      cases same
      exact honest.of_forgets (other_step (Bool.not_eq_true _ ▸ isOther) reached)
        fun _ _ flagged => flagged

theorem SliderWorld.Honest.willFollow (honest : seen.Honest config) (action : SliderAction) :
    seen.WillFollow config action := by
  cases action with
  | frame session world wire sendBootstrap accepts =>
    intro _ _ before info serial supported found _ _ known _
    cases supported with
    | true =>
      rw [if_pos rfl]
      by_cases announced : serial ∈ seen.broker.mqtt.publisher.activePowerLimitAnnounced
      · exact .inr (honest.announced serial announced)
      · cases registered : before.inverterControlCommandRegistered with
        | true => exact .inr (honest.flagged session serial ⟨before, found, registered, known⟩)
        | false => exact .inl ⟨rfl, announced⟩
    | false =>
      rw [if_neg Bool.false_ne_true]
      exact Classical.or_iff_not_imp_left.mpr fun cleared =>
        honest.cleared serial (not_not.mp cleared)
  | _ => trivial

theorem honest_start (config : SliderConfig) (retained : Dict Text Payload) :
    (SliderWorld.start config retained).Honest config := by
  obtain ⟨cleared, announced, _⟩ := connect_quiet config.mqtt 0 .fresh
  constructor
  · intro serial member
    rw [show (SliderWorld.start config retained).broker.mqtt.publisher.activePowerLimitAnnounced =
      ∅ from announced] at member
    exact absurd member (Finset.notMem_empty serial)
  · intro serial member
    rw [show (SliderWorld.start config retained).broker.mqtt.publisher.activePowerLimitCleared =
      ∅ from cleared] at member
    exact absurd member (Finset.notMem_empty serial)
  · rintro session serial ⟨later, found, _⟩
    cases found

theorem enabled_start (config : SliderConfig) (retained : Dict Text Payload) :
    (SliderWorld.start config retained).Enabled config :=
  fun some => ((connect_quiet config.mqtt 0 .fresh).2.2.1 some).elim (absurd rfl) id

/-- **Slider follows.**  After product information, on a connection that takes what is published,
the slider is retained exactly where the firmware supports it, as long as the step announces or
removes it for a serial that the books do not have, or that is retained as it should be already.
So it is in every run that leaves the books honest: no announcement and no removal is dropped that
would change what is retained, and no slider is removed that a session counts on. -/
theorem slider_follows (config : SliderConfig) (retained : Dict Text Payload)
    (actions : List SliderAction) :
    (Along (sliderMachine config) (SliderWorld.Follows config) (.start config retained) actions ↔
      Along (sliderMachine config) (SliderWorld.WillFollow config) (.start config retained)
        actions) ∧
    (Along (sliderMachine config) (SliderWorld.KeepsBooks config) (.start config retained) actions →
      Along (sliderMachine config) (SliderWorld.Follows config) (.start config retained)
        actions) := by
  have enabled := enabled_start config retained
  refine ⟨⟨fun follows => ?_, fun willFollow => ?_⟩, fun keeps => ?_⟩
  · exact follows.of_invariant (SliderWorld.Enabled config)
      (fun enabled _ stepped => enabled_step enabled stepped)
      (fun enabled follows => (follows_iff enabled _).mp follows) enabled
  · exact willFollow.of_invariant (SliderWorld.Enabled config)
      (fun enabled _ stepped => enabled_step enabled stepped)
      (fun enabled willFollow => (follows_iff enabled _).mpr willFollow) enabled
  · -- honest books are what makes the slider follow at every step
    exact keeps.of_invariant (fun seen => seen.Enabled config ∧ seen.Honest config)
      (fun invariant keeps stepped => ⟨enabled_step invariant.1 stepped,
        honest_step invariant.1 invariant.2 keeps stepped⟩)
      (fun invariant _ => (follows_iff invariant.1 _).mpr (invariant.2.willFollow _))
      ⟨enabled, honest_start config retained⟩

end Books

/-! ### A refused announcement -/

def SliderConfig.everything : SliderConfig := ⟨.everything, .homeAssistant, .empty⟩

/-- A session handles a frame while nothing fails, and the broker accepts what is published. -/
def SliderAction.handle (session : Nat) (wire : WireFrame) : SliderAction :=
  .frame session ⟨0, 0, none⟩ wire false fun _ => true

/-- The session reports the supported firmware before there is a connection. -/
def earlyReport : List SliderAction :=
  [.connect, .handle 0 (registrationFrame 'A'.toUInt8), .handle 0 supportedFrame,
    .mqtt ⟨.connected 0 true, fun _ => true⟩]

/-- The first client has a connection, and nothing is retained after the next report though the
session supports the slider. -/
def lacksSlider (reached after : SliderWorld) : Bool :=
  reached.broker.mqtt.publisher.client = some 0 &&
  reached.broker.mqtt.links[0]?.any ClientLink.isUp &&
  (after.broker.retained.get (MqttConfig.homeAssistant.sliderTopic ['A'])).isNone &&
  (after.session 0).any fun session =>
    session.localControl.isSome && session.knownSerial = some ['A'] &&
      supportsActivePowerLimit session.model session.firmware = .ok true

/-- What was dropped counts as announced: the slider is missing from then on. -/
theorem slider_dropped :
    ¬ ∀ (config : SliderConfig) (retained : Dict Text Payload) (actions : List SliderAction),
      Along (sliderMachine config) (SliderWorld.Follows config) (.start config retained)
        actions := by
  intro claimed
  have check : (run (sliderMachine .everything) (.start .everything .empty) earlyReport).any
      (fun reached => (sliderMachine .everything reached.1 (.handle 0 supportedFrame)).any
        fun after => lacksSlider reached.1 after.1) = true := by
    decide +kernel
  obtain ⟨⟨reached, trace⟩, ran, found⟩ := (Option.any_eq_true _ _).mp check
  obtain ⟨⟨after, shown⟩, stepped, lacks⟩ := (Option.any_eq_true _ _).mp found
  simp only [lacksSlider, Bool.and_eq_true, decide_eq_true_eq] at lacks
  obtain ⟨⟨⟨isClient, isUp⟩, nothing⟩, supports⟩ := lacks
  obtain ⟨⟨up, accepted⟩, isLink, rfl⟩ := (Option.any_eq_true _ _).mp isUp
  obtain ⟨session, found, supports⟩ := (Option.any_eq_true _ _).mp supports
  simp only [Bool.and_eq_true, decide_eq_true_eq] at supports
  obtain ⟨⟨controlled, known⟩, checked⟩ := supports
  have follows : reached.Follows .everything (.handle 0 supportedFrame) :=
    ((claimed _ _ (earlyReport ++ [.handle 0 supportedFrame])).after_run ran).1
  obtain ⟨payload, retained, _⟩ := (follows (by decide +kernel) (by decide +kernel)
    ⟨⟨0, accepted, isClient, isLink⟩, fun _ => rfl⟩ after shown stepped session ['A'] true found
    controlled known checked).mpr rfl
  rw [show SliderConfig.everything.mqtt = .homeAssistant from rfl,
    Option.isNone_iff_eq_none.mp nothing] at retained
  cases retained

end FoxessGateway.Server
