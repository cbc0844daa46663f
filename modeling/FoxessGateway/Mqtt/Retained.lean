import FoxessGateway.Mqtt.Connections
import FoxessGateway.Mqtt.Topics

/-! # What the broker retains

The publisher with the retained messages of the broker, which outlive the connections and the
daemon.  The books of the publisher say for which serials the slider of the ActivePowerLimit was
announced and for which it was removed.  Here is what each operation does to the books and to what
is retained. -/

namespace FoxessGateway.Mqtt

open Protocol Effectful Action Runs

/-! ## The broker -/

/-- The publisher and its clients, and the retained payloads by their topics. -/
structure BrokerWorld where
  mqtt : MqttWorld
  retained : Dict Text Payload

/-- An empty payload takes the retained message of its topic away. -/
def keepMessage (retained : Dict Text Payload) (message : Message) : Dict Text Payload :=
  if message.retain = false then retained
  else if message.payload = .empty then retained.pop message.topic
  else retained.set message.topic message.payload

/-- What a call does to the connections and to what is retained. -/
def retainEffect (accepts : Message → Bool) (state : List ClientLink × Dict Text Payload)
    (effect : MqttEffect) : List ClientLink × Dict Text Payload :=
  (applyEffect accepts state.1 effect,
    match effect.call with
    | .publish message =>
      if (state.1[effect.client]?).any ClientLink.isUp = true ∧ accepts message = true then
        keepMessage state.2 message
      else state.2
    | _ => state.2)

def retainEffects (accepts : Message → Bool) (links : List ClientLink)
    (retained : Dict Text Payload) (effects : List MqttEffect) : Dict Text Payload :=
  (effects.foldl (retainEffect accepts) (links, retained)).2

def brokerMachine (config : MqttConfig) (deviceNames : Dict Text Text) :
    Machine BrokerWorld MqttStep MqttEffect :=
  fun world step =>
  (world.mqtt.linksAt step.action).bind fun links =>
    (mqttMachine config deviceNames world.mqtt step).map fun reached =>
      (⟨reached.1, retainEffects step.accepts links world.retained reached.2⟩, reached.2)

/-! ## The slider -/

/-- The topic that configures the slider of an inverter. -/
def MqttConfig.sliderTopic (config : MqttConfig) (serial : Text) : Text :=
  config.entityTopic "number" serial "active_power_limit".toList

namespace MqttConfig

variable (config : MqttConfig)

theorem sliderTopic_inj {first second : Text} :
    config.sliderTopic first = config.sliderTopic second ↔ first = second := by
  simp only [sliderTopic, entityTopic_eq, List.append_cancel_left_eq, List.cons.injEq, true_and,
    List.append_cancel_right_eq]

/-- The other entities of an inverter have topics of their own. -/
theorem entityTopic_ne_sliderTopic {component : String}
    (other : component ∈ ["sensor", "binary_sensor"]) (owner field serial : Text) :
    config.entityTopic component owner field ≠ config.sliderTopic serial := by
  rw [sliderTopic, entityTopic_eq, entityTopic_eq]
  intro same
  have parts := List.cons.inj (List.append_cancel_left same)
  simp only [List.mem_cons, List.not_mem_nil, or_false] at other
  rcases other with rfl | rfl
  · exact absurd (List.cons.inj parts.2).1 (by decide)
  · exact absurd (List.cons.inj parts.2).1 (by decide)

theorem inverterTopic_ne_sliderTopic {leaf : String} (apart : ¬ leaf.toList <:+ "config".toList)
    (apartToo : ¬ "config".toList <:+ leaf.toList) (owner serial : Text) :
    config.inverterTopic owner leaf ≠ config.sliderTopic serial :=
  config.inverterTopic_ne_entityTopic apart apartToo

theorem statusTopic_ne_sliderTopic (serial : Text) :
    config.statusTopic ≠ config.sliderTopic serial := by
  have ends : "status".toList <:+ config.statusTopic :=
    ⟨config.topicPrefix ++ ['/'], by simp [statusTopic, path, List.intercalate]⟩
  exact ne_of_suffix ends (config.entityTopic_suffix _ _ _) (by decide) (by decide)

theorem gatewayDiscovery_ne_sliderTopic (serial : Text) :
    config.gatewayDiscovery.topic ≠ config.sliderTopic serial := by
  rw [sliderTopic, entityTopic_eq]
  intro same
  have shape : config.gatewayDiscovery.topic = config.discoveryPrefix ++
      '/' :: "binary_sensor/foxess_local_gateway/connected/config".toList := by
    simp [gatewayDiscovery, path, List.intercalate]
  rw [shape] at same
  have parts := List.cons.inj (List.append_cancel_left same)
  exact absurd (List.cons.inj parts.2).1 (by decide)

end MqttConfig

/-- The broker retains a configuration of the slider. -/
def BrokerWorld.Shows (config : MqttConfig) (world : BrokerWorld) (serial : Text) : Prop :=
  ∃ payload, world.retained.get (config.sliderTopic serial) = some payload ∧ payload ≠ .empty

/-- The serials for which the slider was announced, and those for which it was removed. -/
def MqttPublisher.books (publisher : MqttPublisher) : Option Nat × Finset Text × Finset Text :=
  (publisher.client, publisher.activePowerLimitAnnounced, publisher.activePowerLimitCleared)

/-! ## Operations that leave the slider alone -/

/-- The call publishes nothing that configures a slider. -/
def MqttEffect.IsQuiet (config : MqttConfig) (effect : MqttEffect) : Prop :=
  match effect.call with
  | .publish message => ∀ serial, message.topic ≠ config.sliderTopic serial
  | _ => True

theorem retainEffects_quiet {config : MqttConfig} {effects : List MqttEffect}
    (quiet : ∀ effect ∈ effects, effect.IsQuiet config) (accepts : Message → Bool)
    (links : List ClientLink) (retained : Dict Text Payload) (serial : Text) :
    (retainEffects accepts links retained effects).get (config.sliderTopic serial) =
      retained.get (config.sliderTopic serial) := by
  rw [retainEffects]
  induction effects generalizing links retained with
  | nil => rfl
  | cons effect effects inductionHypothesis =>
    rw [List.foldl_cons, retainEffect,
      inductionHypothesis fun other member => quiet other (List.mem_cons_of_mem _ member)]
    have isQuiet := quiet effect List.mem_cons_self
    obtain ⟨client, call⟩ := effect
    cases call with
    | publish message =>
      have apart := isQuiet serial
      dsimp only
      split
      · rw [keepMessage]
        split
        · rfl
        · split
          · rw [Dict.get_pop, if_neg apart.symm]
          · rw [Dict.get_set, if_neg apart.symm]
      · rfl
    | _ => rfl

/-- The action leaves the slider alone, in the books and at the broker, and makes and closes no
connection. -/
abbrev Aside (config : MqttConfig) {α : Type} (action : InMqtt α) : Prop :=
  Leaves MqttPublisher.books (fun effect => effect.IsPlain ∧ effect.IsQuiet config) action

section Aside

variable (config : MqttConfig) (deviceNames : Dict Text Text) (serial : Text)

theorem sendMessages_aside {messages : List Message}
    (apart : ∀ message ∈ messages, ∀ serial, message.topic ≠ config.sliderTopic serial) :
    Aside config (sendMessages messages) := by
  apply sendMessages_leaves
  exact fun client message member => ⟨trivial, apart message member⟩

theorem sendMessage_aside {message : Message}
    (apart : ∀ serial, message.topic ≠ config.sliderTopic serial) :
    Aside config (sendMessage message) :=
  callClient_leaves _ fun _ => ⟨trivial, apart⟩

theorem discoveryMessages_aside (device : DeviceInfo) (telemetry : Telemetry) :
    Aside config (sendMessages (discoveryMessages config device telemetry)) := by
  apply sendMessages_aside
  intro message member other
  obtain ⟨component, isComponent, owner, field, topic⟩ :=
    discoveryMessages_topic config device telemetry member
  rw [topic]
  exact config.entityTopic_ne_sliderTopic isComponent owner field other

theorem telemetryMessages_aside (telemetry : Telemetry) :
    Aside config (sendMessages (telemetryMessages config telemetry)) := by
  apply sendMessages_aside
  intro message member other
  rw [telemetryMessages] at member
  rcases List.mem_cons.mp member with rfl | later
  · exact config.inverterTopic_ne_sliderTopic (by decide) (by decide) _ _
  · rcases List.mem_cons.mp later with rfl | scalar
    · exact config.inverterTopic_ne_sliderTopic (by decide) (by decide) _ _
    · obtain ⟨leaf, isLeaf, topic⟩ := scalarMessages_topic config telemetry scalar
      have apart : ∀ leaf ∈ scalarLeaves, ¬ leaf.toList <:+ "config".toList ∧
          ¬ "config".toList <:+ leaf.toList := by decide
      rw [topic]
      exact config.inverterTopic_ne_sliderTopic (apart leaf isLeaf).1 (apart leaf isLeaf).2 _ _

theorem publish_aside (telemetry : Telemetry) :
    Aside config (publish config deviceNames telemetry) := by
  refine Leaves.bind Leaves.get fun _ => Leaves.doWhen ?_
  refine Leaves.bind (Leaves.modify fun _ => rfl) fun _ => ?_
  refine Leaves.bind (Leaves.doWhen ?_) fun _ => telemetryMessages_aside config telemetry
  refine Leaves.bind Leaves.get fun _ => ?_
  exact Leaves.bind (discoveryMessages_aside config _ telemetry) fun _ => Leaves.modify fun _ => rfl

theorem publishInverterAvailability_aside (status : Text) :
    Aside config (publishInverterAvailability config serial status) :=
  Leaves.bind Leaves.get fun _ => Leaves.doWhen (sendMessage_aside config fun _ =>
    config.inverterTopic_ne_sliderTopic (by decide) (by decide) _ _)

theorem registerActivePowerLimitHandler_aside :
    Aside config (registerActivePowerLimitHandler config serial) := by
  refine Leaves.bind (Leaves.modify fun _ => rfl) fun _ => Leaves.doWhen ?_
  exact callClient_leaves _ fun _ => ⟨trivial, trivial⟩

theorem unregisterActivePowerLimitHandler_aside :
    Aside config (unregisterActivePowerLimitHandler config serial) := by
  refine Leaves.bind Leaves.get fun _ => Leaves.doWhen ?_
  refine Leaves.bind (Leaves.modify fun _ => rfl) fun _ => Leaves.doWhen ?_
  exact callClient_leaves _ fun _ => ⟨trivial, trivial⟩

theorem publishActivePowerLimitState_aside (value : Nat) :
    Aside config (publishActivePowerLimitState config serial value) :=
  Leaves.bind Leaves.get fun _ => Leaves.doWhen (sendMessage_aside config fun _ =>
    config.inverterTopic_ne_sliderTopic (by decide) (by decide) _ _)

theorem publishActivePowerLimitResult_aside (status : Text) :
    Aside config (publishActivePowerLimitResult config serial status) :=
  Leaves.bind Leaves.get fun _ => Leaves.doWhen (sendMessage_aside config fun _ =>
    config.inverterTopic_ne_sliderTopic (by decide) (by decide) _ _)

theorem onConnect_aside (client : Nat) (success : Bool) :
    Aside config (onConnect config client success) := by
  refine Leaves.bind Leaves.get fun publisher => Leaves.doWhen ?_
  refine Leaves.bind (Leaves.modify fun _ => rfl) fun _ => Leaves.doWhen ?_
  refine Leaves.bind (sendMessage_aside config config.gatewayDiscovery_ne_sliderTopic) fun _ => ?_
  refine Leaves.bind (sendMessage_aside config config.statusTopic_ne_sliderTopic) fun _ => ?_
  exact subscribeAll_leaves _ fun _ _ => ⟨trivial, trivial⟩

end Aside

/-! ## Steps -/

/-- The client has a connection. -/
def BrokerWorld.Ready (world : BrokerWorld) : Prop :=
  ∃ client accepted, world.mqtt.publisher.client = some client ∧
    world.mqtt.links[client]? = some ⟨true, accepted⟩

section Steps

variable {config : MqttConfig} {deviceNames : Dict Text Text} {world next : BrokerWorld}
  {shown : List MqttEffect}

/-- What a step leaves. -/
theorem brokerMachine_step {step : MqttStep}
    (stepped : brokerMachine config deviceNames world step = some (next, shown)) :
    let outcome := (step.action.run config deviceNames world.mqtt.links.length).run
      world.mqtt.publisher
    ∃ links, world.mqtt.linksAt step.action = some links ∧
      next.mqtt.publisher = outcome.state ∧
      next.mqtt.links = deliver step.accepts links outcome.effects ∧
      next.retained = retainEffects step.accepts links world.retained outcome.effects := by
  obtain ⟨links, begins, later⟩ := Option.bind_eq_some_iff.mp stepped
  rw [mqttMachine, begins] at later
  cases later
  exact ⟨links, begins, rfl, rfl, rfl⟩

/-- Nothing that is retained for a slider changes. -/
def BrokerWorld.SameSliders (config : MqttConfig) (world next : BrokerWorld) : Prop :=
  ∀ serial, next.retained.get (config.sliderTopic serial) =
    world.retained.get (config.sliderTopic serial)

theorem BrokerWorld.SameSliders.shows_iff (same : world.SameSliders config next) (serial : Text) :
    next.Shows config serial ↔ world.Shows config serial := by
  rw [BrokerWorld.Shows, BrokerWorld.Shows, same serial]

/-- A step that leaves the slider alone. -/
theorem aside_step {step : MqttStep}
    (aside : Aside config (step.action.run config deviceNames world.mqtt.links.length))
    (stepped : brokerMachine config deviceNames world step = some (next, shown)) :
    next.mqtt.publisher.books = world.mqtt.publisher.books ∧ world.SameSliders config next := by
  obtain ⟨links, _, samePublisher, _, sameRetained⟩ := brokerMachine_step stepped
  constructor
  · rw [samePublisher]
    exact aside.keeps world.mqtt.publisher
  · intro serial
    rw [sameRetained]
    exact retainEffects_quiet (fun effect member => (aside.shows _ effect member).2) _ _ _ serial

/-- And one that finds the connections as they are. -/
theorem aside_ready {step : MqttStep}
    (aside : Aside config (step.action.run config deviceNames world.mqtt.links.length))
    (begins : world.mqtt.linksAt step.action = some world.mqtt.links)
    (stepped : brokerMachine config deviceNames world step = some (next, shown))
    (ready : world.Ready) : next.Ready := by
  obtain ⟨books, _⟩ := aside_step aside stepped
  obtain ⟨links, alsoBegins, _, sameLinks, _⟩ := brokerMachine_step stepped
  obtain rfl := Option.some.inj (begins.symm.trans alsoBegins)
  obtain ⟨client, accepted, isClient, isUp⟩ := ready
  obtain ⟨⟨up, later⟩, isAfter, grows⟩ := deliver_grows step.accepts
    (fun effect member => (aside.shows world.mqtt.publisher effect member).1) isUp
  cases grows.isUp
  refine ⟨client, later, ?_, by rw [sameLinks, isAfter]⟩
  exact (congrArg Prod.fst books).trans isClient

/-- What is retained for the sliders when one message about a slider and another that is about none
are published. -/
theorem retainEffects_slider {message other : Message} (client : Nat) (accepts : Message → Bool)
    (links : List ClientLink) (retained : Dict Text Payload)
    (apart : ∀ serial, other.topic ≠ config.sliderTopic serial) (serial : Text) :
    (retainEffects accepts links retained (publishes client [message, other])).get
        (config.sliderTopic serial) =
      (if (links[client]?).any ClientLink.isUp = true ∧ accepts message = true then
        keepMessage retained message
      else retained).get (config.sliderTopic serial) := by
  have quiet : ∀ effect ∈ publishes client [other], effect.IsQuiet config := by
    intro effect member
    obtain rfl := List.mem_singleton.mp member
    exact apart
  exact retainEffects_quiet quiet accepts _ _ serial

/-- A message about one slider changes nothing for another. -/
theorem keepMessage_other {message : Message} {serial other : Text}
    (topic : message.topic = config.sliderTopic serial) (apart : other ≠ serial)
    (retained : Dict Text Payload) :
    (keepMessage retained message).get (config.sliderTopic other) =
      retained.get (config.sliderTopic other) := by
  have different : config.sliderTopic other ≠ message.topic := by
    rw [topic]
    exact fun same => apart (config.sliderTopic_inj.mp same)
  rw [keepMessage]
  split
  · rfl
  · split
    · rw [Dict.get_pop, if_neg different]
    · rw [Dict.get_set, if_neg different]

/-- The first message goes to the slider of the serial, and the second to none. -/
theorem publishes_others {message second : Message} {serial other : Text} {client : Nat}
    {accepts : Message → Bool}
    (topic : message.topic = config.sliderTopic serial)
    (apart : ∀ serial, second.topic ≠ config.sliderTopic serial)
    (sameRetained : next.retained = retainEffects accepts world.mqtt.links world.retained
      (publishes client [message, second])) (isOther : other ≠ serial) :
    next.Shows config other ↔ world.Shows config other := by
  have same : next.retained.get (config.sliderTopic other) =
      world.retained.get (config.sliderTopic other) := by
    rw [sameRetained, retainEffects_slider client accepts _ _ apart]
    split
    · exact keepMessage_other topic isOther _
    · rfl
  rw [BrokerWorld.Shows, BrokerWorld.Shows, same]

/-! ### The slider's own operations -/

theorem sends_client {publisher : MqttPublisher} {serial : Text}
    (sends : ¬ publisher.Skips config serial) : ∃ client, publisher.client = some client := by
  apply Option.ne_none_iff_exists'.mp
  exact fun none => sends (.inr (.inl none))

theorem publishActivePowerLimitDiscovery_run (deviceNames : Dict Text Text)
    {publisher : MqttPublisher} {serial : Text} (sends : ¬ publisher.Skips config serial)
    (unknown : serial ∉ publisher.activePowerLimitAnnounced) :
    ∃ client device, publisher.client = some client ∧ device.serial = serial ∧
      (publishActivePowerLimitDiscovery config deviceNames serial).run publisher =
        ⟨{ publisher with
          activePowerLimitAnnounced := insert serial publisher.activePowerLimitAnnounced
          activePowerLimitCleared := publisher.activePowerLimitCleared \ {serial} },
          publishes client (activePowerLimitEntities config device), .ok ()⟩ := by
  obtain ⟨client, isClient⟩ := sends_client sends
  refine ⟨client, ⟨serial, (deviceNames.get serial).getD serial, publisher.modelOf serial, [], []⟩,
    isClient, rfl, ?_⟩
  rw [publishActivePowerLimitDiscovery, run_get_bind, doWhen, if_pos ⟨sends, unknown⟩,
    run_bind_ok (by rw [sendMessages_run isClient]), sendMessages_run isClient]
  dsimp only
  rw [run_modify, List.append_nil]

theorem publishActivePowerLimitDiscovery_run_known {publisher : MqttPublisher} {serial : Text}
    (known : publisher.Skips config serial ∨ serial ∈ publisher.activePowerLimitAnnounced) :
    (publishActivePowerLimitDiscovery config deviceNames serial).run publisher =
      ⟨publisher, [], .ok ()⟩ := by
  rw [publishActivePowerLimitDiscovery, run_get_bind, doWhen, if_neg]
  · rfl
  · rintro ⟨sends, unknown⟩
    exact known.elim sends unknown

theorem clearActivePowerLimitDiscovery_run {publisher : MqttPublisher} {serial : Text}
    (sends : ¬ publisher.Skips config serial)
    (unknown : serial ∉ publisher.activePowerLimitCleared) :
    ∃ client, publisher.client = some client ∧
      (clearActivePowerLimitDiscovery config serial).run publisher =
        ⟨{ publisher with
          activePowerLimitAnnounced := publisher.activePowerLimitAnnounced \ {serial}
          activePowerLimitCleared := insert serial publisher.activePowerLimitCleared },
          publishes client (activePowerLimitRemovals config serial), .ok ()⟩ := by
  obtain ⟨client, isClient⟩ := sends_client sends
  refine ⟨client, isClient, ?_⟩
  generalize isDiscarded : { publisher with
    activePowerLimitAnnounced := publisher.activePowerLimitAnnounced \ {serial} } = discarded
  have still : discarded.client = some client := by
    rw [← isDiscarded]
    exact isClient
  have sendsStill : ¬ discarded.Skips config serial ∧
      serial ∉ discarded.activePowerLimitCleared := by
    rw [← isDiscarded]
    exact ⟨sends, unknown⟩
  rw [clearActivePowerLimitDiscovery, run_modify_bind, isDiscarded, run_get_bind, doWhen,
    if_pos sendsStill, run_bind_ok (by rw [sendMessages_run still]), sendMessages_run still]
  dsimp only
  rw [run_modify, List.append_nil, ← isDiscarded]

theorem clearActivePowerLimitDiscovery_run_known {publisher : MqttPublisher} {serial : Text}
    (known : publisher.Skips config serial ∨ serial ∈ publisher.activePowerLimitCleared) :
    (clearActivePowerLimitDiscovery config serial).run publisher =
      ⟨{ publisher with
        activePowerLimitAnnounced := publisher.activePowerLimitAnnounced \ {serial} }, [],
        .ok ()⟩ := by
  rw [clearActivePowerLimitDiscovery, run_modify_bind, run_get_bind, doWhen, if_neg]
  · rfl
  · rintro ⟨sends, unknown⟩
    exact known.elim sends unknown

theorem publish_ready {client : Nat} {accepts : Message → Bool} {messages : List Message}
    (isClient : world.mqtt.publisher.client = some client)
    (sameClient : next.mqtt.publisher.client = some client)
    (sameLinks : next.mqtt.links = deliver accepts world.mqtt.links (publishes client messages))
    (ready : world.Ready) : next.Ready := by
  obtain ⟨_, accepted, isCurrent, isUp⟩ := ready
  obtain rfl := Option.some.inj (isClient.symm.trans isCurrent)
  refine ⟨client, accepted ++ messages.filter accepts, sameClient, ?_⟩
  rw [sameLinks, deliver_publishes, isUp]
  rfl

/-- The broker takes whatever is published on the client's connection. -/
def BrokerWorld.Takes (world : BrokerWorld) (accepts : Message → Bool) : Prop :=
  world.Ready ∧ ∀ message, accepts message = true

/-- What announcing the slider of an inverter does to the books and at the broker. -/
inductive Announces (config : MqttConfig) (accepts : Message → Bool) (serial : Text)
    (world next : BrokerWorld) : Prop
  /-- There is no client, or the serial is in the books. -/
  | known (known : world.mqtt.publisher.Skips config serial ∨
      serial ∈ world.mqtt.publisher.activePowerLimitAnnounced)
    (books : next.mqtt.publisher.books = world.mqtt.publisher.books)
    (same : world.SameSliders config next)
  /-- The serial joins the books, whatever became of the message. -/
  | sent (sends : ¬ world.mqtt.publisher.Skips config serial)
    (unknown : serial ∉ world.mqtt.publisher.activePowerLimitAnnounced)
    (books : next.mqtt.publisher.books = (world.mqtt.publisher.client,
      insert serial world.mqtt.publisher.activePowerLimitAnnounced,
      world.mqtt.publisher.activePowerLimitCleared \ {serial}))
    (others : ∀ other, other ≠ serial → (next.Shows config other ↔ world.Shows config other))
    (kept : world.Takes accepts ∨ world.Shows config serial → next.Shows config serial)

/-- What removing the slider of an inverter does. -/
inductive Withdraws (config : MqttConfig) (accepts : Message → Bool) (serial : Text)
    (world next : BrokerWorld) : Prop
  | known (known : world.mqtt.publisher.Skips config serial ∨
      serial ∈ world.mqtt.publisher.activePowerLimitCleared)
    (books : next.mqtt.publisher.books = (world.mqtt.publisher.client,
      world.mqtt.publisher.activePowerLimitAnnounced \ {serial},
      world.mqtt.publisher.activePowerLimitCleared))
    (same : world.SameSliders config next)
  | sent (sends : ¬ world.mqtt.publisher.Skips config serial)
    (unknown : serial ∉ world.mqtt.publisher.activePowerLimitCleared)
    (books : next.mqtt.publisher.books = (world.mqtt.publisher.client,
      world.mqtt.publisher.activePowerLimitAnnounced \ {serial},
      insert serial world.mqtt.publisher.activePowerLimitCleared))
    (others : ∀ other, other ≠ serial → (next.Shows config other ↔ world.Shows config other))
    (hides : world.Takes accepts ∨ ¬ world.Shows config serial → ¬ next.Shows config serial)

theorem announce_step {accepts : Message → Bool} {serial : Text}
    (stepped : brokerMachine config deviceNames world
      ⟨.publishActivePowerLimitDiscovery serial, accepts⟩ = some (next, shown)) :
    Announces config accepts serial world next ∧ (world.Ready → next.Ready) := by
  obtain ⟨links, begins, samePublisher, sameLinks, sameRetained⟩ := brokerMachine_step stepped
  cases begins
  dsimp only [MqttAction.run] at samePublisher sameLinks sameRetained
  by_cases known : world.mqtt.publisher.Skips config serial ∨
      serial ∈ world.mqtt.publisher.activePowerLimitAnnounced
  · rw [publishActivePowerLimitDiscovery_run_known known] at samePublisher sameLinks sameRetained
    constructor
    · exact .known known (by rw [samePublisher]) fun other => by rw [sameRetained]; rfl
    · rintro ⟨client, accepted, isClient, isUp⟩
      exact ⟨client, accepted, by rw [samePublisher, isClient], by rw [sameLinks]; exact isUp⟩
  · obtain ⟨sends, unknown⟩ := not_or.mp known
    obtain ⟨client, device, isClient, sameSerial, ran⟩ :=
      publishActivePowerLimitDiscovery_run deviceNames sends unknown
    rw [ran] at samePublisher sameLinks sameRetained
    have apart : ∀ other, (config.configure "sensor" device "active_power_limit_result").topic ≠
        config.sliderTopic other :=
      config.entityTopic_ne_sliderTopic (by decide) _ _
    have topic : (config.configure "number" device "active_power_limit").topic =
        config.sliderTopic serial := by
      rw [← sameSerial]
      rfl
    refine ⟨.sent sends unknown (by rw [samePublisher]; rfl)
      (fun other isOther => publishes_others topic apart sameRetained isOther) fun taken => ?_,
      publish_ready isClient (by rw [samePublisher, isClient]) sameLinks⟩
    have sets : keepMessage world.retained (config.configure "number" device "active_power_limit") =
        world.retained.set (config.sliderTopic serial) (.entity device) := by
      rw [keepMessage, topic]
      rfl
    rw [BrokerWorld.Shows, sameRetained, activePowerLimitEntities,
      retainEffects_slider client accepts _ _ apart, sets]
    split
    · exact ⟨.entity device, Dict.get_set_self _ _ _, Payload.noConfusion⟩
    · rename_i dropped
      rcases taken with ⟨⟨current, accepted, isCurrent, isUp⟩, all⟩ | before
      · obtain rfl := Option.some.inj (isClient.symm.trans isCurrent)
        exact absurd ⟨by rw [isUp]; rfl, all _⟩ dropped
      · exact before

theorem withdraw_step {accepts : Message → Bool} {serial : Text}
    (stepped : brokerMachine config deviceNames world
      ⟨.clearActivePowerLimitDiscovery serial, accepts⟩ = some (next, shown)) :
    Withdraws config accepts serial world next ∧ (world.Ready → next.Ready) := by
  obtain ⟨links, begins, samePublisher, sameLinks, sameRetained⟩ := brokerMachine_step stepped
  cases begins
  dsimp only [MqttAction.run] at samePublisher sameLinks sameRetained
  by_cases known : world.mqtt.publisher.Skips config serial ∨
      serial ∈ world.mqtt.publisher.activePowerLimitCleared
  · rw [clearActivePowerLimitDiscovery_run_known known] at samePublisher sameLinks sameRetained
    constructor
    · exact .known known (by rw [samePublisher]; rfl) fun other => by rw [sameRetained]; rfl
    · rintro ⟨client, accepted, isClient, isUp⟩
      exact ⟨client, accepted, by rw [samePublisher, isClient], by rw [sameLinks]; exact isUp⟩
  · obtain ⟨sends, unknown⟩ := not_or.mp known
    obtain ⟨client, isClient, ran⟩ := clearActivePowerLimitDiscovery_run sends unknown
    rw [ran] at samePublisher sameLinks sameRetained
    have apart : ∀ other, (config.unconfigure "sensor" serial "active_power_limit_result").topic ≠
        config.sliderTopic other :=
      config.entityTopic_ne_sliderTopic (by decide) _ _
    have topic : (config.unconfigure "number" serial "active_power_limit").topic =
        config.sliderTopic serial := rfl
    refine ⟨.sent sends unknown (by rw [samePublisher]; rfl)
      (fun other isOther => publishes_others topic apart sameRetained isOther) fun taken => ?_,
      publish_ready isClient (by rw [samePublisher, isClient]) sameLinks⟩
    have pops : keepMessage world.retained (config.unconfigure "number" serial
        "active_power_limit") = world.retained.pop (config.sliderTopic serial) := rfl
    rw [BrokerWorld.Shows, sameRetained, activePowerLimitRemovals,
      retainEffects_slider client accepts _ _ apart, pops]
    split
    · rw [Dict.get_pop, if_pos rfl]
      rintro ⟨_, none, _⟩
      cases none
    · rename_i dropped
      rcases taken with ⟨⟨current, accepted, isCurrent, isUp⟩, all⟩ | before
      · obtain rfl := Option.some.inj (isClient.symm.trans isCurrent)
        exact absurd ⟨by rw [isUp]; rfl, all _⟩ dropped
      · exact before

/-! ### Worlds that are alike -/

/-- The books and the sliders are the same, and a connection is still there. -/
structure BrokerWorld.Alike (config : MqttConfig) (world next : BrokerWorld) : Prop where
  books : next.mqtt.publisher.books = world.mqtt.publisher.books
  sliders : world.SameSliders config next
  ready : world.Ready → next.Ready

namespace BrokerWorld.Alike

theorem refl (config : MqttConfig) (world : BrokerWorld) : world.Alike config world :=
  ⟨rfl, fun _ => rfl, id⟩

theorem trans {first second third : BrokerWorld} (early : first.Alike config second)
    (late : second.Alike config third) : first.Alike config third where
  books := late.books.trans early.books
  sliders serial := (late.sliders serial).trans (early.sliders serial)
  ready := late.ready ∘ early.ready

theorem client (alike : world.Alike config next) :
    next.mqtt.publisher.client = world.mqtt.publisher.client := congrArg Prod.fst alike.books

theorem announced (alike : world.Alike config next) :
    next.mqtt.publisher.activePowerLimitAnnounced =
      world.mqtt.publisher.activePowerLimitAnnounced := congrArg (·.2.1) alike.books

theorem cleared (alike : world.Alike config next) :
    next.mqtt.publisher.activePowerLimitCleared =
      world.mqtt.publisher.activePowerLimitCleared := congrArg (·.2.2) alike.books

theorem skips_iff (alike : world.Alike config next) (serial : Text) :
    next.mqtt.publisher.Skips config serial ↔ world.mqtt.publisher.Skips config serial := by
  rw [MqttPublisher.Skips, MqttPublisher.Skips, alike.client]

theorem takes (alike : world.Alike config next) {accepts : Message → Bool}
    (taken : world.Takes accepts) : next.Takes accepts := ⟨alike.ready taken.1, taken.2⟩

end BrokerWorld.Alike

variable {accepts : Message → Bool} {serial : Text} {before after : BrokerWorld}

theorem Announces.congr (announces : Announces config accepts serial before after)
    (early : world.Alike config before) (late : after.Alike config next) :
    Announces config accepts serial world next := by
  cases announces with
  | known known books same =>
    rw [early.skips_iff, early.announced] at known
    refine .known known ((late.books.trans books).trans early.books) fun other => ?_
    exact ((late.sliders other).trans (same other)).trans (early.sliders other)
  | sent sends unknown books others kept =>
    rw [early.skips_iff] at sends
    rw [early.announced] at unknown
    rw [early.client, early.announced, early.cleared] at books
    refine .sent sends unknown (late.books.trans books) (fun other isOther => ?_) fun taken => ?_
    · rw [late.sliders.shows_iff, others other isOther, early.sliders.shows_iff]
    · rw [late.sliders.shows_iff]
      exact kept (taken.imp early.takes (early.sliders.shows_iff serial).mpr)

theorem Withdraws.congr (withdraws : Withdraws config accepts serial before after)
    (early : world.Alike config before) (late : after.Alike config next) :
    Withdraws config accepts serial world next := by
  cases withdraws with
  | known known books same =>
    rw [early.skips_iff, early.cleared] at known
    rw [early.client, early.announced, early.cleared] at books
    refine .known known (late.books.trans books) fun other => ?_
    exact ((late.sliders other).trans (same other)).trans (early.sliders other)
  | sent sends unknown books others hides =>
    rw [early.skips_iff] at sends
    rw [early.cleared] at unknown
    rw [early.client, early.announced, early.cleared] at books
    refine .sent sends unknown (late.books.trans books) (fun other isOther => ?_) fun taken => ?_
    · rw [late.sliders.shows_iff, others other isOther, early.sliders.shows_iff]
    · rw [late.sliders.shows_iff]
      refine hides (taken.imp early.takes fun hidden shows => hidden ?_)
      exact (early.sliders.shows_iff serial).mp shows

/-! ### Other operations -/

/-- The action is one of the slider's own. -/
def MqttAction.isSlider : MqttAction → Bool
  | publishActivePowerLimitDiscovery _ | clearActivePowerLimitDiscovery _ => true
  | _ => false

/-- What every other operation does: it may forget what was announced. -/
structure BrokerWorld.Forgets (config : MqttConfig) (world next : BrokerWorld) : Prop where
  sliders : world.SameSliders config next
  cleared : next.mqtt.publisher.activePowerLimitCleared =
    world.mqtt.publisher.activePowerLimitCleared
  announced : next.mqtt.publisher.activePowerLimitAnnounced ⊆
    world.mqtt.publisher.activePowerLimitAnnounced
  /-- There is a client only where there is a broker. -/
  client : next.mqtt.publisher.client ≠ none →
    world.mqtt.publisher.client ≠ none ∨ config.enabled = true

theorem BrokerWorld.Forgets.of_books
    (books : next.mqtt.publisher.books = world.mqtt.publisher.books)
    (sliders : world.SameSliders config next) : world.Forgets config next where
  sliders := sliders
  cleared := congrArg (·.2.2) books
  announced := (congrArg (·.2.1) books).le
  client some := .inl fun none => some ((congrArg Prod.fst books).trans none)

/-- Giving up the client publishes nothing. -/
theorem teardownClient_quiet (config : MqttConfig) (publisher : MqttPublisher) :
    let outcome := teardownClient.run publisher
    outcome.state.client = none ∧
      outcome.state.activePowerLimitCleared = publisher.activePowerLimitCleared ∧
      outcome.state.activePowerLimitAnnounced ⊆ publisher.activePowerLimitAnnounced ∧
      ∀ effect ∈ outcome.effects, effect.IsQuiet config := by
  cases isClient : publisher.client with
  | none =>
    rw [teardownClient_run_none isClient]
    exact ⟨isClient, rfl, Finset.Subset.refl _, fun _ member => absurd member List.not_mem_nil⟩
  | some client =>
    rw [teardownClient_run isClient]
    refine ⟨rfl, rfl, Finset.empty_subset _, fun effect member => ?_⟩
    simp only [List.mem_cons, List.not_mem_nil, or_false] at member
    rcases member with rfl | rfl
    · trivial
    · trivial

theorem connect_quiet (config : MqttConfig) (client : Nat) (publisher : MqttPublisher) :
    let outcome := (connect config client).run publisher
    outcome.state.activePowerLimitCleared = publisher.activePowerLimitCleared ∧
      outcome.state.activePowerLimitAnnounced = publisher.activePowerLimitAnnounced ∧
      (outcome.state.client ≠ none → publisher.client ≠ none ∨ config.enabled = true) ∧
      ∀ effect ∈ outcome.effects, effect.IsQuiet config := by
  by_cases enabled : config.enabled = true
  · rw [connect_run enabled]
    refine ⟨rfl, rfl, fun _ => .inr enabled, fun effect member => ?_⟩
    obtain rfl := List.mem_singleton.mp member
    trivial
  · rw [connect_run_disabled enabled]
    exact ⟨rfl, rfl, .inl, fun _ member => absurd member List.not_mem_nil⟩

theorem ensureConnected_forgets {running : Bool} {accepts : Message → Bool}
    (stepped : brokerMachine config deviceNames world ⟨.ensureConnected running, accepts⟩ =
      some (next, shown)) : world.Forgets config next := by
  obtain ⟨links, begins, samePublisher, _, sameRetained⟩ := brokerMachine_step stepped
  dsimp only [MqttAction.run] at samePublisher sameRetained
  obtain idle | ⟨current, _, _, published⟩ | rebuilt := ensureConnected_cases config running
    world.mqtt.links.length world.mqtt.publisher
  · rw [idle] at samePublisher sameRetained
    exact .of_books (by rw [samePublisher]) fun serial => by rw [sameRetained]; rfl
  · rw [published] at samePublisher sameRetained
    refine .of_books (by rw [samePublisher]) fun serial => ?_
    rw [sameRetained]
    apply retainEffects_quiet
    intro effect member
    obtain rfl := List.mem_singleton.mp member
    exact config.statusTopic_ne_sliderTopic
  · rw [rebuilt, run_bind_ok (teardownClient_returns _)] at samePublisher sameRetained
    obtain ⟨noClient, cleared, announced, quiet⟩ :=
      teardownClient_quiet config world.mqtt.publisher
    obtain ⟨sameCleared, sameAnnounced, hasClient, alsoQuiet⟩ := connect_quiet config
      world.mqtt.links.length (teardownClient.run world.mqtt.publisher).state
    constructor
    case sliders =>
      intro serial
      rw [sameRetained]
      apply retainEffects_quiet
      intro effect member
      exact (List.mem_append.mp member).elim (quiet effect) (alsoQuiet effect)
    case cleared => rw [samePublisher, sameCleared, cleared]
    case announced =>
      rw [samePublisher, sameAnnounced]
      exact announced
    case client =>
      intro some
      rw [samePublisher] at some
      exact (hasClient some).imp_left (absurd noClient)

theorem close_forgets {accepts : Message → Bool}
    (stepped : brokerMachine config deviceNames world ⟨.close, accepts⟩ = some (next, shown)) :
    world.Forgets config next := by
  obtain ⟨links, begins, samePublisher, _, sameRetained⟩ := brokerMachine_step stepped
  dsimp only [MqttAction.run, close] at samePublisher sameRetained
  obtain ⟨noClient, cleared, announced, quiet⟩ := teardownClient_quiet config world.mqtt.publisher
  constructor
  case sliders =>
    intro serial
    rw [sameRetained]
    exact retainEffects_quiet quiet _ _ _ serial
  case cleared => rw [samePublisher, cleared]
  case announced =>
    rw [samePublisher]
    exact announced
  case client =>
    intro some
    rw [samePublisher] at some
    exact absurd noClient some

theorem disconnected_forgets {client : Nat} {accepts : Message → Bool}
    (stepped : brokerMachine config deviceNames world ⟨.disconnected client, accepts⟩ =
      some (next, shown)) : world.Forgets config next := by
  obtain ⟨links, begins, samePublisher, _, sameRetained⟩ := brokerMachine_step stepped
  dsimp only [MqttAction.run] at samePublisher sameRetained
  by_cases isClient : world.mqtt.publisher.client = some client
  · rw [onDisconnect_run isClient] at samePublisher sameRetained
    constructor
    case sliders => exact fun serial => by rw [sameRetained]; rfl
    case cleared => rw [samePublisher]
    case announced =>
      rw [samePublisher]
      exact Finset.empty_subset _
    case client =>
      intro some
      rw [samePublisher] at some
      exact .inl some
  · rw [onDisconnect_run_stale isClient] at samePublisher sameRetained
    exact .of_books (by rw [samePublisher]) fun serial => by rw [sameRetained]; rfl

theorem other_step {step : MqttStep} (other : step.action.isSlider = false)
    (stepped : brokerMachine config deviceNames world step = some (next, shown)) :
    world.Forgets config next := by
  obtain ⟨action, accepts⟩ := step
  have aside (aside : Aside config (action.run config deviceNames world.mqtt.links.length)) :
      world.Forgets config next := by
    obtain ⟨books, sliders⟩ := aside_step aside stepped
    exact .of_books books sliders
  cases action with
  | publish telemetry => exact aside (publish_aside config deviceNames telemetry)
  | publishInverterAvailability serial status =>
    exact aside (publishInverterAvailability_aside config serial status)
  | registerActivePowerLimitHandler serial =>
    exact aside (registerActivePowerLimitHandler_aside config serial)
  | unregisterActivePowerLimitHandler serial =>
    exact aside (unregisterActivePowerLimitHandler_aside config serial)
  | publishActivePowerLimitDiscovery serial => cases other
  | clearActivePowerLimitDiscovery serial => cases other
  | publishActivePowerLimitState serial value =>
    exact aside (publishActivePowerLimitState_aside config serial value)
  | publishActivePowerLimitResult serial status =>
    exact aside (publishActivePowerLimitResult_aside config serial status)
  | ensureConnected running => exact ensureConnected_forgets stepped
  | close => exact close_forgets stepped
  | connected client success => exact aside (onConnect_aside config client success)
  | disconnected client => exact disconnected_forgets stepped

/-- There is a client only where there is a broker. -/
theorem client_step {step : MqttStep}
    (stepped : brokerMachine config deviceNames world step = some (next, shown))
    (some : next.mqtt.publisher.client ≠ none) :
    world.mqtt.publisher.client ≠ none ∨ config.enabled = true := by
  cases isSlider : step.action.isSlider with
  | false => exact (other_step isSlider stepped).client some
  | true =>
    obtain ⟨action, accepts⟩ := step
    have same : next.mqtt.publisher.client = world.mqtt.publisher.client := by
      cases action with
      | publishActivePowerLimitDiscovery serial =>
        obtain ⟨announces, _⟩ := announce_step stepped
        cases announces with
        | known _ books _ => exact congrArg Prod.fst books
        | sent _ _ books _ _ => exact congrArg Prod.fst books
      | clearActivePowerLimitDiscovery serial =>
        obtain ⟨withdraws, _⟩ := withdraw_step stepped
        cases withdraws with
        | known _ books _ => exact congrArg Prod.fst books
        | sent _ _ books _ _ => exact congrArg Prod.fst books
      | _ => cases isSlider
    exact .inl (same ▸ some)

end Steps

end FoxessGateway.Mqtt
