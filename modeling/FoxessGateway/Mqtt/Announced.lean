import FoxessGateway.Mqtt.Broker

/-! # Announced means delivered

When the serials in `announced` are those whose discovery the broker has accepted on the client's
connection: as long as every discovery is published on a connection and accepted. -/

namespace FoxessGateway.Mqtt

open Protocol Effectful Action Runs

/-! ## Operations that announce nothing -/

/-- The client, and the serials that are announced. -/
def MqttPublisher.announcedBy (publisher : MqttPublisher) : Option Nat × Finset Text :=
  (publisher.client, publisher.announced)

/-- The action announces nothing, and makes and closes no connection. -/
abbrev Plain {α : Type} (action : InMqtt α) : Prop :=
  Leaves MqttPublisher.announcedBy MqttEffect.IsPlain action

section Calls

variable {τ : Type} {view : MqttPublisher → τ} {allowed : MqttEffect → Prop}

/-- A call of the client changes nothing that the publisher remembers. -/
theorem callClient_leaves (call : ClientCall) (allows : ∀ client, allowed ⟨client, call⟩) :
    Leaves view allowed (callClient call) := by
  apply Leaves.bind Leaves.get
  intro publisher
  split
  · exact Leaves.perform (allows _)
  · exact Leaves.pure

theorem sendMessages_leaves (messages : List Message)
    (allows : ∀ client, ∀ message ∈ messages, allowed ⟨client, .publish message⟩) :
    Leaves view allowed (sendMessages messages) := by
  induction messages with
  | nil => exact Leaves.pure
  | cons message messages inductionHypothesis =>
    apply Leaves.bind (callClient_leaves _ fun client => allows client message List.mem_cons_self)
    exact fun _ => inductionHypothesis fun client other member =>
      allows client other (List.mem_cons_of_mem _ member)

theorem subscribeAll_leaves (topics : List Text)
    (allows : ∀ client topic, allowed ⟨client, .subscribe topic⟩) :
    Leaves view allowed (subscribeAll topics) := by
  induction topics with
  | nil => exact Leaves.pure
  | cons topic topics inductionHypothesis =>
    exact Leaves.bind (callClient_leaves _ fun client => allows client topic) fun _ =>
      inductionHypothesis

end Calls

theorem sendMessage_plain (message : Message) : Plain (sendMessage message) :=
  callClient_leaves _ fun _ => trivial

theorem sendMessages_plain (messages : List Message) : Plain (sendMessages messages) :=
  sendMessages_leaves messages fun _ _ _ => trivial

section Operations

variable (config : MqttConfig) (deviceNames : Dict Text Text) (serial : Text)

theorem publishInverterAvailability_plain (status : Text) :
    Plain (publishInverterAvailability config serial status) :=
  Leaves.bind Leaves.get fun _ => Leaves.doWhen (sendMessage_plain _)

theorem registerActivePowerLimitHandler_plain :
    Plain (registerActivePowerLimitHandler config serial) := by
  refine Leaves.bind (Leaves.modify fun _ => rfl) fun _ => ?_
  exact Leaves.doWhen (callClient_leaves _ fun _ => trivial)

theorem unregisterActivePowerLimitHandler_plain :
    Plain (unregisterActivePowerLimitHandler config serial) := by
  refine Leaves.bind Leaves.get fun _ => Leaves.doWhen ?_
  refine Leaves.bind (Leaves.modify fun _ => rfl) fun _ => ?_
  exact Leaves.doWhen (callClient_leaves _ fun _ => trivial)

theorem publishActivePowerLimitDiscovery_plain :
    Plain (publishActivePowerLimitDiscovery config deviceNames serial) := by
  refine Leaves.bind Leaves.get fun _ => Leaves.doWhen ?_
  exact Leaves.bind (sendMessages_plain _) fun _ => Leaves.modify fun _ => rfl

theorem clearActivePowerLimitDiscovery_plain :
    Plain (clearActivePowerLimitDiscovery config serial) := by
  refine Leaves.bind (Leaves.modify fun _ => rfl) fun _ => ?_
  refine Leaves.bind Leaves.get fun _ => Leaves.doWhen ?_
  exact Leaves.bind (sendMessages_plain _) fun _ => Leaves.modify fun _ => rfl

theorem publishActivePowerLimitState_plain (value : Nat) :
    Plain (publishActivePowerLimitState config serial value) :=
  Leaves.bind Leaves.get fun _ => Leaves.doWhen (sendMessage_plain _)

theorem publishActivePowerLimitResult_plain (status : Text) :
    Plain (publishActivePowerLimitResult config serial status) :=
  Leaves.bind Leaves.get fun _ => Leaves.doWhen (sendMessage_plain _)

theorem onConnect_plain (client : Nat) (success : Bool) :
    Plain (onConnect config client success) := by
  refine Leaves.bind Leaves.get fun publisher => Leaves.doWhen ?_
  refine Leaves.bind (Leaves.modify fun _ => rfl) fun _ => Leaves.doWhen ?_
  refine Leaves.bind (sendMessage_plain _) fun _ => Leaves.bind (sendMessage_plain _) fun _ => ?_
  exact subscribeAll_leaves _ fun _ _ => trivial

end Operations

/-! ## Operations that forget -/

theorem callClient_completes {before : MqttPublisher → Prop} (call : ClientCall) :
    Completes before (callClient call) (fun _ => before) := by
  intro publisher holds
  rw [callClient, run_get_bind]
  split
  · exact ⟨(), rfl, holds⟩
  · exact ⟨(), rfl, holds⟩

/-- Where there is no client, nothing is announced. -/
def MqttPublisher.IsSound (publisher : MqttPublisher) : Prop :=
  publisher.client = none → publisher.announced = ∅

/-- Nothing is announced after a teardown. -/
theorem teardownClient_forgets :
    Completes MqttPublisher.IsSound teardownClient fun _ publisher => publisher.announced = ∅ := by
  intro publisher isSound
  rw [teardownClient, run_get_bind]
  cases isClient : publisher.client with
  | none => exact ⟨(), rfl, isSound isClient⟩
  | some client =>
    have forgets : Completes (fun _ => True) (do
        modify fun publisher => { publisher with mqttConnected := false }
        callClient .loopStop
        callClient .disconnect
        modify fun publisher => { publisher with
          client := none, announced := ∅, activePowerLimitAnnounced := ∅ } : InMqtt Unit)
        fun _ publisher => publisher.announced = ∅ := by
      refine Completes.andThen (Completes.modify fun _ _ => trivial) fun _ => ?_
      refine Completes.andThen (callClient_completes _) fun _ => ?_
      refine Completes.andThen (callClient_completes _) fun _ => ?_
      exact Completes.modify fun _ _ => rfl
    exact forgets publisher trivial

theorem connect_announced (config : MqttConfig) (client : Nat) :
    Keeps MqttPublisher.announced (connect config client) := by
  refine Keeps.doWhen (Keeps.bind (Keeps.modify fun _ => rfl) fun _ => ?_)
  refine Keeps.bind Keeps.get fun publisher => ?_
  split
  · exact Keeps.perform
  · exact Keeps.pure

/-- The action leaves the client and what is announced alone, or nothing is announced after it. -/
def KeepsOrForgets (action : InMqtt Unit) : Prop :=
  ∀ publisher : MqttPublisher, publisher.IsSound →
    (action.run publisher).state.announcedBy = publisher.announcedBy ∧
        (∀ effect ∈ (action.run publisher).effects, effect.IsPlain) ∨
      (action.run publisher).state.announced = ∅

theorem KeepsOrForgets.of_plain {action : InMqtt Unit} (plain : Plain action) :
    KeepsOrForgets action :=
  fun publisher _ => .inl ⟨plain.keeps publisher, plain.shows publisher⟩

theorem ensureConnected_keepsOrForgets (config : MqttConfig) (running : Bool) (client : Nat) :
    KeepsOrForgets (ensureConnected config running client) := by
  intro publisher isSound
  rw [ensureConnected, doWhen]
  split
  · rw [run_get_bind]
    split
    · have plain : Plain (doWhen (publisher.mqttConnected = true) (sendMessage config.online)) :=
        Leaves.doWhen (sendMessage_plain _)
      exact KeepsOrForgets.of_plain plain publisher isSound
    · -- the loop is dead, so the client is torn down first
      obtain ⟨_, returned, forgot⟩ := teardownClient_forgets publisher isSound
      rw [run_bind_ok returned]
      exact .inr ((connect_announced config client _).trans forgot)
  · exact .inl ⟨rfl, fun _ member => nomatch member⟩

theorem close_keepsOrForgets : KeepsOrForgets close := by
  intro publisher isSound
  obtain ⟨_, _, forgot⟩ := teardownClient_forgets publisher isSound
  exact .inr forgot

theorem onDisconnect_keepsOrForgets (client : Nat) : KeepsOrForgets (onDisconnect client) := by
  intro publisher isSound
  rw [onDisconnect, run_get_bind, doWhen]
  split
  · exact .inr rfl
  · exact .inl ⟨rfl, fun _ member => nomatch member⟩

theorem onDisconnect_forgets {publisher : MqttPublisher} {client : Nat}
    (isClient : publisher.client = some client) :
    ((onDisconnect client).run publisher).state.announced = ∅ := by
  rw [onDisconnect, run_get_bind, doWhen, if_pos isClient]
  rfl

/-- Every action but the publication of telemetry. -/
theorem run_keepsOrForgets (config : MqttConfig) (deviceNames : Dict Text Text) (nextClient : Nat)
    {action : MqttAction} (other : ∀ telemetry, action ≠ .publish telemetry) :
    KeepsOrForgets (action.run config deviceNames nextClient) := by
  cases action with
  | publish telemetry => exact absurd rfl (other telemetry)
  | publishInverterAvailability serial status =>
    exact .of_plain (publishInverterAvailability_plain config serial status)
  | registerActivePowerLimitHandler serial =>
    exact .of_plain (registerActivePowerLimitHandler_plain config serial)
  | unregisterActivePowerLimitHandler serial =>
    exact .of_plain (unregisterActivePowerLimitHandler_plain config serial)
  | publishActivePowerLimitDiscovery serial =>
    exact .of_plain (publishActivePowerLimitDiscovery_plain config deviceNames serial)
  | clearActivePowerLimitDiscovery serial =>
    exact .of_plain (clearActivePowerLimitDiscovery_plain config serial)
  | publishActivePowerLimitState serial value =>
    exact .of_plain (publishActivePowerLimitState_plain config serial value)
  | publishActivePowerLimitResult serial status =>
    exact .of_plain (publishActivePowerLimitResult_plain config serial status)
  | ensureConnected running => exact ensureConnected_keepsOrForgets config running nextClient
  | close => exact close_keepsOrForgets
  | connected client success => exact .of_plain (onConnect_plain config client success)
  | disconnected client => exact onDisconnect_keepsOrForgets client

/-! ## Telemetry -/

theorem callClient_run {publisher : MqttPublisher} {client : Nat}
    (isClient : publisher.client = some client) (call : ClientCall) :
    (callClient call).run publisher = ⟨publisher, [⟨client, call⟩], .ok ()⟩ := by
  rw [callClient, run_get_bind, isClient]
  rfl

theorem sendMessages_run {publisher : MqttPublisher} {client : Nat}
    (isClient : publisher.client = some client) (messages : List Message) :
    (sendMessages messages).run publisher = ⟨publisher, publishes client messages, .ok ()⟩ := by
  induction messages with
  | nil => rfl
  | cons message messages inductionHypothesis =>
    have first : (sendMessage message).run publisher =
        ⟨publisher, [⟨client, .publish message⟩], .ok ()⟩ := callClient_run isClient _
    rw [sendMessages, run_bind_ok (by rw [first]), first]
    dsimp only
    rw [inductionHypothesis]
    rfl

/-- The publisher after `publish`. -/
def MqttPublisher.published (config : MqttConfig) (deviceNames : Dict Text Text)
    (telemetry : Telemetry) (publisher : MqttPublisher) : MqttPublisher :=
  match publisher.announcement config deviceNames telemetry with
  | some _ =>
    { publisher.note telemetry with announced := insert telemetry.serial publisher.announced }
  | none => publisher.note telemetry

/-- What `publish` sends, where it does not return at once. -/
theorem publish_sends (config : MqttConfig) (deviceNames : Dict Text Text) {telemetry : Telemetry}
    {publisher : MqttPublisher} (sends : ¬ publisher.Skips config telemetry.serial) :
    ∃ client, publisher.client = some client ∧
      (publish config deviceNames telemetry).run publisher =
        ⟨publisher.published config deviceNames telemetry,
          publishes client ((publisher.announcement config deviceNames telemetry).getD [] ++
            telemetryMessages config telemetry), .ok ()⟩ := by
  obtain ⟨client, isClient⟩ : ∃ client, publisher.client = some client := by
    apply Option.ne_none_iff_exists'.mp
    exact fun none => sends (.inr (.inl none))
  have noted : (publisher.note telemetry).client = some client := isClient
  refine ⟨client, isClient, ?_⟩
  rw [publish, run_get_bind, doWhen, if_pos sends, run_modify_bind, doWhen,
    MqttPublisher.published, MqttPublisher.announcement]
  by_cases announces : publisher.shouldAnnounce telemetry = true
  · -- the serial joins `announced` after the last message, whatever became of the messages
    rw [if_pos announces, if_pos ⟨sends, announces⟩]
    generalize isNoted : publisher.note telemetry = after at noted
    have sameAnnounced : after.announced = publisher.announced := by
      rw [← isNoted]
      rfl
    have announced : (do
        let noted ← get
        sendMessages (discoveryMessages config (noted.deviceOf deviceNames telemetry) telemetry)
        modify fun publisher => { publisher with
          announced := insert telemetry.serial publisher.announced } : InMqtt Unit).run after =
        ⟨{ after with announced := insert telemetry.serial after.announced },
          publishes client (discoveryMessages config (after.deviceOf deviceNames telemetry)
            telemetry), .ok ()⟩ := by
      rw [run_get_bind, run_bind_ok (by rw [sendMessages_run noted]), sendMessages_run noted]
      dsimp only
      rw [run_modify, List.append_nil]
    rw [run_bind_ok (by rw [announced]), announced]
    dsimp only
    rw [sendMessages_run (by exact noted), sameAnnounced, Option.getD_some, publishes, publishes,
      publishes, List.map_append]
  · -- only the state and the readings are sent
    rw [if_neg announces, if_neg (fun both => announces both.2), run_pure_bind,
      sendMessages_run noted]
    rfl

/-- What is announced after a telemetry is published, and the messages that are sent. -/
theorem publish_run (config : MqttConfig) (deviceNames : Dict Text Text) (telemetry : Telemetry)
    (publisher : MqttPublisher) :
    let outcome := (publish config deviceNames telemetry).run publisher
    outcome.state.client = publisher.client ∧
      match publisher.announcement config deviceNames telemetry with
      | some messages =>
        outcome.state.announced = insert telemetry.serial publisher.announced ∧
          ∃ client, publisher.client = some client ∧
            outcome.effects = publishes client (messages ++ telemetryMessages config telemetry)
      | none =>
        outcome.state.announced = publisher.announced ∧
          ∀ effect ∈ outcome.effects, effect.IsPlain := by
  dsimp only
  by_cases skips : publisher.Skips config telemetry.serial
  · rw [publish, run_get_bind, doWhen, MqttPublisher.announcement, if_neg (not_not_intro skips),
      if_neg (fun both => both.1 skips)]
    exact ⟨rfl, rfl, fun _ member => nomatch member⟩
  · obtain ⟨client, isClient, sent⟩ := publish_sends config deviceNames skips
    rw [sent, MqttPublisher.published]
    cases publisher.announcement config deviceNames telemetry with
    | some messages => exact ⟨rfl, rfl, client, isClient, rfl⟩
    | none =>
      refine ⟨rfl, rfl, ?_⟩
      intro effect member
      obtain ⟨message, _, rfl⟩ := List.mem_map.mp member
      exact trivial

/-! ## Delivery -/

namespace MqttWorld

/-- The discovery messages of every serial that is announced were accepted on the connection that
the client has now. -/
def Delivered (world : MqttWorld) : Prop :=
  ∀ serial ∈ world.publisher.announced, ∃ client accepted messages,
    world.publisher.client = some client ∧ world.links[client]? = some ⟨true, accepted⟩ ∧
      world.discovered.get serial = some messages ∧ ∀ message ∈ messages, message ∈ accepted

/-- Where telemetry is announced, the client has a connection, and each message of the discovery is
accepted, or was accepted on the connection before. -/
def Delivers (config : MqttConfig) (deviceNames : Dict Text Text) (world : MqttWorld)
    (step : MqttStep) : Prop :=
  match step.action with
  | .publish telemetry =>
    ∀ messages, world.publisher.announcement config deviceNames telemetry = some messages →
      ∃ client accepted, world.publisher.client = some client ∧
        world.links[client]? = some ⟨true, accepted⟩ ∧
        ∀ message ∈ messages, message ∈ accepted ∨ step.accepts message = true
  | _ => True

theorem Delivered.isSound {world : MqttWorld} (delivered : world.Delivered) :
    world.publisher.IsSound := by
  intro noClient
  by_contra some
  obtain ⟨serial, member⟩ := Finset.nonempty_iff_ne_empty.mpr some
  obtain ⟨client, _, _, isClient, _⟩ := delivered serial member
  rw [noClient] at isClient
  cases isClient

theorem delivered_of_empty {world : MqttWorld} (empty : world.publisher.announced = ∅) :
    world.Delivered := by
  intro serial member
  rw [empty] at member
  exact absurd member (Finset.notMem_empty serial)

end MqttWorld

section Steps

variable {config : MqttConfig} {deviceNames : Dict Text Text} {world next : MqttWorld}
  {step : MqttStep} {shown : List MqttEffect}

/-- A connection that the broker takes or loses is not the one that is up, unless its client is told
of the loss. -/
theorem linksAt_up {links : List ClientLink} {client : Nat} {accepted : List Message}
    (isClient : world.publisher.client = some client)
    (isUp : world.links[client]? = some ⟨true, accepted⟩)
    (begins : world.linksAt step.action = some links) :
    links[client]? = some ⟨true, accepted⟩ ∨ step.action = .disconnected client := by
  cases isAction : step.action with
  | connected other success =>
    rw [isAction, MqttWorld.linksAt] at begins
    split at begins
    · -- only a client without a connection gets one
      rename_i earlier isDown
      cases begins
      left
      cases success with
      | false => exact isUp
      | true =>
        have apart : other ≠ client := by
          rintro rfl
          rw [isUp] at isDown
          cases isDown
        rw [if_pos rfl, List.getElem?_set_ne apart]
        exact isUp
    · cases begins
  | disconnected other =>
    rw [isAction, MqttWorld.linksAt] at begins
    split at begins
    · cases begins
      by_cases apart : other = client
      · exact .inr (by rw [apart])
      · exact .inl (by rw [List.getElem?_set_ne apart]; exact isUp)
    · cases begins
  | _ =>
    rw [isAction] at begins
    cases begins
    exact .inl isUp

/-- The step of a publication. -/
theorem mqttMachine_publish {telemetry : Telemetry} {accepts : Message → Bool}
    (stepped : mqttMachine config deviceNames world ⟨.publish telemetry, accepts⟩ =
      some (next, shown)) :
    let outcome := (publish config deviceNames telemetry).run world.publisher
    next.publisher = outcome.state ∧ next.links = deliver accepts world.links outcome.effects ∧
      next.discovered = world.discoveredAfter config deviceNames (.publish telemetry) := by
  cases stepped
  exact ⟨rfl, rfl, rfl⟩

theorem publish_delivers {telemetry : Telemetry} {accepts : Message → Bool}
    (delivered : world.Delivered)
    (delivers : world.Delivers config deviceNames ⟨.publish telemetry, accepts⟩)
    (stepped : mqttMachine config deviceNames world ⟨.publish telemetry, accepts⟩ =
      some (next, shown)) : next.Delivered := by
  obtain ⟨samePublisher, sameLinks, sameDiscovered⟩ := mqttMachine_publish stepped
  obtain ⟨sameClient, announces⟩ := publish_run config deviceNames telemetry world.publisher
  rw [MqttWorld.discoveredAfter] at sameDiscovered
  cases announcement : world.publisher.announcement config deviceNames telemetry with
  | none =>
    -- what the client publishes is accepted or not, and nothing that was accepted is lost
    rw [announcement] at announces sameDiscovered
    obtain ⟨sameAnnounced, plain⟩ := announces
    intro serial member
    rw [samePublisher, sameAnnounced] at member
    obtain ⟨client, accepted, messages, isClient, isUp, isDiscovered, taken⟩ :=
      delivered serial member
    obtain ⟨⟨stillUp, later⟩, isAfter, grows⟩ := deliver_grows accepts plain isUp
    cases grows.isUp
    refine ⟨client, later, messages, ?_, ?_, ?_, fun message isOne => ?_⟩
    · rw [samePublisher, sameClient, isClient]
    · rw [sameLinks, isAfter]
    · rw [sameDiscovered]
      exact isDiscovered
    · exact grows.accepted message (taken message isOne)
  | some announced =>
    rw [announcement] at announces sameDiscovered
    obtain ⟨isAnnounced, client, isClient, effects⟩ := announces
    obtain ⟨_, accepted, isClient', isUp, takes⟩ := delivers announced announcement
    obtain rfl := Option.some.inj (isClient.symm.trans isClient')
    have nowUp : next.links[client]? = some ⟨true, accepted ++
        (announced ++ telemetryMessages config telemetry).filter accepts⟩ := by
      rw [sameLinks, effects, deliver_publishes, isUp]
      rfl
    intro serial member
    rw [samePublisher, isAnnounced] at member
    by_cases isNew : serial = telemetry.serial
    · -- the discovery of this telemetry takes the place of an earlier one
      refine ⟨client, _, announced, ?_, nowUp, ?_, fun message isOne => ?_⟩
      · rw [samePublisher, sameClient, isClient]
      · rw [sameDiscovered, isNew, Dict.get_set_self]
      · rcases takes message isOne with before | now
        · exact List.mem_append_left _ before
        · apply List.mem_append_right
          exact List.mem_filter.mpr ⟨List.mem_append_left _ isOne, now⟩
    · obtain ⟨_, earlier, messages, isClient'', wasUp, isDiscovered, taken⟩ :=
        delivered serial (Finset.mem_of_mem_insert_of_ne member isNew)
      obtain rfl := Option.some.inj (isClient.symm.trans isClient'')
      cases isUp.symm.trans wasUp
      refine ⟨client, _, messages, ?_, nowUp, ?_, fun message isOne => ?_⟩
      · rw [samePublisher, sameClient, isClient]
      · rw [sameDiscovered, Dict.get_set, if_neg isNew]
        exact isDiscovered
      · exact List.mem_append_left _ (taken message isOne)

/-- A publication after which everything announced is delivered has delivered its discovery. -/
theorem delivers_of_delivered {telemetry : Telemetry} {accepts : Message → Bool}
    (stepped : mqttMachine config deviceNames world ⟨.publish telemetry, accepts⟩ =
      some (next, shown)) (delivered : next.Delivered) :
    world.Delivers config deviceNames ⟨.publish telemetry, accepts⟩ := by
  intro announced announcement
  obtain ⟨samePublisher, sameLinks, sameDiscovered⟩ := mqttMachine_publish stepped
  obtain ⟨sameClient, announces⟩ := publish_run config deviceNames telemetry world.publisher
  rw [MqttWorld.discoveredAfter, announcement] at sameDiscovered
  rw [announcement] at announces
  obtain ⟨isAnnounced, client, isClient, effects⟩ := announces
  obtain ⟨_, accepted, messages, nowClient, nowUp, isDiscovered, taken⟩ :=
    delivered telemetry.serial (by
      rw [samePublisher, isAnnounced]
      exact Finset.mem_insert_self _ _)
  rw [samePublisher, sameClient, isClient] at nowClient
  cases nowClient
  rw [sameDiscovered, Dict.get_set_self] at isDiscovered
  cases isDiscovered
  rw [sameLinks, effects, deliver_publishes] at nowUp
  obtain ⟨⟨wasUp, earlier⟩, isLink, became⟩ := Option.map_eq_some_iff.mp nowUp
  cases wasUp with
  | false => cases congrArg ClientLink.isUp became
  | true =>
    -- each message was accepted before, or is among those that the broker accepts now
    cases became
    refine ⟨client, earlier, isClient, isLink, fun message isOne => ?_⟩
    rcases List.mem_append.mp (taken message isOne) with before | now
    · exact .inl before
    · exact .inr (List.mem_filter.mp now).2

theorem discoveredAfter_other (config : MqttConfig) (deviceNames : Dict Text Text)
    (world : MqttWorld) {action : MqttAction}
    (other : ∀ telemetry, action ≠ .publish telemetry) :
    world.discoveredAfter config deviceNames action = world.discovered := by
  cases action with
  | publish telemetry => exact absurd rfl (other telemetry)
  | _ => rfl

/-- Every other step is such that what is announced stays delivered, or is forgotten. -/
theorem other_delivers (other : ∀ telemetry, step.action ≠ .publish telemetry)
    (delivered : world.Delivered)
    (stepped : mqttMachine config deviceNames world step = some (next, shown)) :
    next.Delivered := by
  rw [mqttMachine] at stepped
  cases begins : world.linksAt step.action with
  | none =>
    rw [begins] at stepped
    cases stepped
  | some links =>
    rw [begins] at stepped
    dsimp only at stepped
    cases stepped
    rcases run_keepsOrForgets config deviceNames world.links.length other world.publisher
      delivered.isSound with ⟨same, plain⟩ | forgot
    · have sameClient := congrArg Prod.fst same
      have sameAnnounced : ((step.action.run config deviceNames world.links.length).run
          world.publisher).state.announced = world.publisher.announced := congrArg Prod.snd same
      have sameDiscovered := discoveredAfter_other config deviceNames world other
      intro serial member
      have wasAnnounced : serial ∈ world.publisher.announced := by
        rw [← sameAnnounced]
        exact member
      obtain ⟨client, accepted, messages, isClient, isUp, isDiscovered, taken⟩ :=
        delivered serial wasAnnounced
      rcases linksAt_up isClient isUp begins with stillUp | lost
      · obtain ⟨⟨up, later⟩, isAfter, grows⟩ := deliver_grows step.accepts plain stillUp
        cases grows.isUp
        refine ⟨client, later, messages, sameClient.trans isClient, isAfter, ?_, ?_⟩
        · exact (congrArg (Dict.get · serial) sameDiscovered).trans isDiscovered
        · intro message isOne
          exact grows.accepted message (taken message isOne)
      · -- the client is told of the loss, and forgets what it has announced
        rw [lost] at member
        have forgets := onDisconnect_forgets isClient
        exact absurd (forgets ▸ member) (Finset.notMem_empty serial)
    · exact MqttWorld.delivered_of_empty forgot

end Steps

/-! ## Runs -/

theorem start_delivered (config : MqttConfig) : (MqttWorld.start config).Delivered :=
  MqttWorld.delivered_of_empty (connect_announced config 0 .fresh)

/-- **What is announced is delivered**, in the whole of a run, exactly where every discovery in it
is published on a connection and accepted. -/
theorem announced_delivered_iff (config : MqttConfig) (deviceNames : Dict Text Text)
    (steps : List MqttStep) :
    Throughout (mqttMachine config deviceNames) MqttWorld.Delivered (MqttWorld.start config) steps ↔
      Along (mqttMachine config deviceNames) (MqttWorld.Delivers config deviceNames)
        (MqttWorld.start config) steps := by
  apply throughout_iff_along _ _ (start_delivered config)
  · intro world step next shown delivered delivers stepped
    by_cases publishes : ∃ telemetry, step.action = .publish telemetry
    · obtain ⟨action, accepts⟩ := step
      obtain ⟨telemetry, rfl⟩ := publishes
      exact publish_delivers delivered delivers stepped
    · exact other_delivers (not_exists.mp publishes) delivered stepped
  · intro world step _ later
    obtain ⟨action, accepts⟩ := step
    cases action with
    | publish telemetry => exact delivers_of_delivered rfl (later _ _ rfl)
    | _ => exact trivial

/-- The telemetry of an inverter that stands by. -/
def idleTelemetry : Telemetry where
  serial := "A".toList
  rPowerW := 0
  exportPowerW := 0
  rVoltageV := ⟨0, 32, 3⟩
  rCurrentA := ⟨0, 512, 3⟩
  rFrequencyHz := ⟨0, 128, 3⟩
  pvPowerW := 0
  pv1 := ⟨0, ⟨0, 256, 3⟩, ⟨0, 512, 3⟩⟩
  pv2 := ⟨0, ⟨0, 256, 3⟩, ⟨0, 512, 3⟩⟩
  pv34 := none
  inverterTemperatureC := ⟨0, 32, 2⟩
  generationKwh := ⟨0, 128, 3⟩
  exportTotalKwh := ⟨0, 128, 3⟩
  faultActive := false
  operatingState := .standby
  operatingStateCode := 2
  sequence := 0
  rawWords := [(0, 0), (2, 0), (96, 0), (98, 0), (100, 0), (102, 0), (104, 0), (106, 0), (154, 2),
    (156, 0)]
  model := []
  firmware := []
  module := []
  lastFaultCode := []
  lastFaultMessage := []
  lastFaultTimestamp := none
  meshRole := []
  meshPeerSerial := []

theorem idleTelemetry_decoded : decodeTelemetry (List.replicate 155 0 ++ 2 :: List.replicate 82 0)
    ⟨"A".toList, [], [], [], [], none, [], []⟩ = .ok idleTelemetry := by
  decide +kernel

/-- A broker that accepts everything takes the connection of the client after the first
telemetry. -/
def lateConnection : Option (MqttWorld × List MqttEffect) :=
  let config : MqttConfig :=
    ⟨"broker".toList, "foxess".toList, "homeassistant".toList, true, false⟩
  run (mqttMachine config .empty) (.start config)
    [⟨.publish idleTelemetry, fun _ => true⟩, ⟨.connected 0 true, fun _ => true⟩]

/-- The serial `A` is announced, and each connection lacks a message of its discovery. -/
def MqttWorld.LacksDiscovery (world : MqttWorld) : Prop :=
  "A".toList ∈ world.publisher.announced ∧
    ∀ link ∈ world.links, ∀ messages ∈ world.discovered.get "A".toList,
      ∃ message ∈ messages, message ∉ link.accepted

instance (world : MqttWorld) : Decidable world.LacksDiscovery := inferInstanceAs (Decidable (_ ∧ _))

theorem MqttWorld.LacksDiscovery.not_delivered {world : MqttWorld} (lacks : world.LacksDiscovery) :
    ¬ world.Delivered := by
  intro delivered
  obtain ⟨client, accepted, messages, _, isLink, isDiscovered, taken⟩ := delivered _ lacks.1
  obtain ⟨message, isOne, missing⟩ :=
    lacks.2 _ (List.mem_of_getElem? isLink) messages isDiscovered
  exact missing (taken message isOne)

/-- Telemetry that comes before the broker has taken the connection is dropped, and its serial is
announced on the connection that follows. -/
theorem announced_undelivered :
    ¬ ∀ (config : MqttConfig) (deviceNames : Dict Text Text) (steps : List MqttStep)
      (final : MqttWorld) (trace : List MqttEffect),
      run (mqttMachine config deviceNames) (MqttWorld.start config) steps = some (final, trace) →
        final.Delivered := by
  intro claim
  have lacks : lateConnection.any (fun reached => decide reached.1.LacksDiscovery) = true := by
    decide +kernel
  obtain ⟨⟨final, trace⟩, ran, lacks⟩ := (Option.any_eq_true _ _).mp lacks
  exact (of_decide_eq_true lacks).not_delivered (claim _ _ _ final trace ran)

end FoxessGateway.Mqtt
