import FoxessGateway.Library.Runs
import FoxessGateway.Mqtt.Publisher

/-! # The publisher and the broker

The publisher with the clients it has made and what the broker accepted from each, as a machine.
A client without a connection to the broker drops what it is given to publish. -/

namespace FoxessGateway.Mqtt

open Protocol Effectful Action Runs

/-! ## Connections -/

/-- What the broker accepted from a client on its connection. -/
structure ClientLink where
  isUp : Bool
  accepted : List Message

def ClientLink.down : ClientLink := ⟨false, []⟩

def ClientLink.up : ClientLink := ⟨true, []⟩

/-- A message is published on the connection, and accepted or refused. -/
def ClientLink.take (accepts : Message → Bool) (message : Message) (link : ClientLink) :
    ClientLink :=
  if link.isUp = true ∧ accepts message = true then
    { link with accepted := link.accepted ++ [message] }
  else link

/-- What a call of a client does to the connections. -/
def applyEffect (accepts : Message → Bool) (links : List ClientLink) (effect : MqttEffect) :
    List ClientLink :=
  match effect.call with
  | .create => links ++ [.down]
  | .publish message => links.modify effect.client (.take accepts message)
  | .disconnect => links.modify effect.client fun _ => .down
  | .subscribe _ | .unsubscribe _ | .loopStop => links

def deliver (accepts : Message → Bool) (links : List ClientLink) (effects : List MqttEffect) :
    List ClientLink :=
  effects.foldl (applyEffect accepts) links

/-! ## The machine -/

/-- What the daemon, the clients and the broker may do. -/
inductive MqttAction where
  | publish (telemetry : Telemetry)
  | publishInverterAvailability (serial status : Text)
  | registerActivePowerLimitHandler (serial : Text)
  | unregisterActivePowerLimitHandler (serial : Text)
  | publishActivePowerLimitDiscovery (serial : Text)
  | clearActivePowerLimitDiscovery (serial : Text)
  | publishActivePowerLimitState (serial : Text) (value : Nat)
  | publishActivePowerLimitResult (serial status : Text)
  /-- The watchdog, which finds the loop of the client running or dead. -/
  | ensureConnected (running : Bool)
  | close
  /-- The broker takes a connection of the client, or refuses it. -/
  | connected (client : Nat) (success : Bool)
  /-- A client loses its connection. -/
  | disconnected (client : Nat)

/-- An action, with the messages that the broker accepts meanwhile. -/
structure MqttStep where
  action : MqttAction
  accepts : Message → Bool

structure MqttWorld where
  publisher : MqttPublisher
  /-- The connections of the clients, in the order in which they were made. -/
  links : List ClientLink
  /-- The messages of the last discovery of each inverter. -/
  discovered : Dict Text (List Message)

/-- What the publisher does. -/
def MqttAction.run (config : MqttConfig) (deviceNames : Dict Text Text) (nextClient : Nat) :
    MqttAction → InMqtt Unit
  | .publish telemetry => Mqtt.publish config deviceNames telemetry
  | .publishInverterAvailability serial status =>
    Mqtt.publishInverterAvailability config serial status
  | .registerActivePowerLimitHandler serial => Mqtt.registerActivePowerLimitHandler config serial
  | .unregisterActivePowerLimitHandler serial =>
    Mqtt.unregisterActivePowerLimitHandler config serial
  | .publishActivePowerLimitDiscovery serial =>
    Mqtt.publishActivePowerLimitDiscovery config deviceNames serial
  | .clearActivePowerLimitDiscovery serial => Mqtt.clearActivePowerLimitDiscovery config serial
  | .publishActivePowerLimitState serial value =>
    Mqtt.publishActivePowerLimitState config serial value
  | .publishActivePowerLimitResult serial status =>
    Mqtt.publishActivePowerLimitResult config serial status
  | .ensureConnected running => Mqtt.ensureConnected config running nextClient
  | .close => Mqtt.close
  | .connected client success => onConnect config client success
  | .disconnected client => onDisconnect client

namespace MqttPublisher

/-- The messages by which the telemetry is announced, where it is. -/
def announcement (config : MqttConfig) (deviceNames : Dict Text Text) (telemetry : Telemetry)
    (publisher : MqttPublisher) : Option (List Message) :=
  if ¬ publisher.Skips config telemetry.serial ∧ publisher.shouldAnnounce telemetry = true then
    some (discoveryMessages config ((publisher.note telemetry).deviceOf deviceNames telemetry)
      telemetry)
  else none

end MqttPublisher

namespace MqttWorld

variable (config : MqttConfig) (deviceNames : Dict Text Text) (world : MqttWorld)

/-- The connections when the action begins: those of the clients change on their own. -/
def linksAt : MqttAction → Option (List ClientLink)
  | .connected client success =>
    match world.links[client]? with
    | some ⟨false, _⟩ => some (if success then world.links.set client .up else world.links)
    | _ => none
  | .disconnected client =>
    if client < world.links.length then some (world.links.set client .down) else none
  | _ => some world.links

/-- The last discoveries, after the action. -/
def discoveredAfter : MqttAction → Dict Text (List Message)
  | .publish telemetry =>
    match world.publisher.announcement config deviceNames telemetry with
    | some messages => world.discovered.set telemetry.serial messages
    | none => world.discovered
  | _ => world.discovered

end MqttWorld

def mqttMachine (config : MqttConfig) (deviceNames : Dict Text Text) :
    Machine MqttWorld MqttStep MqttEffect :=
  fun world step =>
  match world.linksAt step.action with
  | none => none
  | some links =>
    let outcome := (step.action.run config deviceNames world.links.length).run world.publisher
    some (⟨outcome.state, deliver step.accepts links outcome.effects,
      world.discoveredAfter config deviceNames step.action⟩, outcome.effects)

/-- The world when the daemon has called `connect`. -/
def MqttWorld.start (config : MqttConfig) : MqttWorld :=
  let outcome := (connect config 0).run .fresh
  ⟨outcome.state, deliver (fun _ => false) [] outcome.effects, .empty⟩

/-! ## What calls do to the connections -/

/-- A call that makes and closes no connection. -/
def MqttEffect.IsPlain (effect : MqttEffect) : Prop :=
  match effect.call with
  | .create | .disconnect => False
  | .publish _ | .subscribe _ | .unsubscribe _ | .loopStop => True

/-- More may be accepted on the connection, and nothing else changes. -/
structure ClientLink.Grows (before after : ClientLink) : Prop where
  isUp : after.isUp = before.isUp
  accepted : ∀ message ∈ before.accepted, message ∈ after.accepted

theorem ClientLink.take_grows (accepts : Message → Bool) (message : Message) (link : ClientLink) :
    link.Grows (link.take accepts message) := by
  rw [ClientLink.take]
  split
  · exact ⟨rfl, fun _ member => List.mem_append_left _ member⟩
  · exact ⟨rfl, fun _ member => member⟩

theorem ClientLink.Grows.trans {first second third : ClientLink} (early : first.Grows second)
    (late : second.Grows third) : first.Grows third :=
  ⟨late.isUp.trans early.isUp, fun _ member => late.accepted _ (early.accepted _ member)⟩

theorem applyEffect_grows (accepts : Message → Bool) {links : List ClientLink}
    {effect : MqttEffect} (plain : effect.IsPlain) {client : Nat} {link : ClientLink}
    (isLink : links[client]? = some link) :
    ∃ after, (applyEffect accepts links effect)[client]? = some after ∧ link.Grows after := by
  have same : link.Grows link := ⟨rfl, fun _ member => member⟩
  obtain ⟨target, call⟩ := effect
  cases call with
  | create => exact plain.elim
  | disconnect => exact plain.elim
  | subscribe topic => exact ⟨link, isLink, same⟩
  | unsubscribe topic => exact ⟨link, isLink, same⟩
  | loopStop => exact ⟨link, isLink, same⟩
  | publish message =>
    rw [applyEffect]
    dsimp only
    rw [List.getElem?_modify, isLink]
    by_cases isTarget : target = client
    · exact ⟨link.take accepts message, by simp [isTarget], link.take_grows accepts message⟩
    · exact ⟨link, by simp [isTarget], same⟩

/-- Plain calls let every connection grow. -/
theorem deliver_grows (accepts : Message → Bool) {links : List ClientLink}
    {effects : List MqttEffect} (plain : ∀ effect ∈ effects, effect.IsPlain) {client : Nat}
    {link : ClientLink} (isLink : links[client]? = some link) :
    ∃ after, (deliver accepts links effects)[client]? = some after ∧ link.Grows after := by
  induction effects generalizing links link with
  | nil => exact ⟨link, isLink, rfl, fun _ member => member⟩
  | cons effect effects inductionHypothesis =>
    obtain ⟨middle, isMiddle, grows⟩ :=
      applyEffect_grows accepts (plain effect List.mem_cons_self) isLink
    obtain ⟨after, isAfter, growsOn⟩ :=
      inductionHypothesis (fun other member => plain other (List.mem_cons_of_mem _ member)) isMiddle
    exact ⟨after, isAfter, grows.trans growsOn⟩

/-- The messages that a client publishes. -/
def publishes (client : Nat) (messages : List Message) : List MqttEffect :=
  messages.map fun message => ⟨client, .publish message⟩

/-- Messages are published on the connection. -/
def ClientLink.takeAll (accepts : Message → Bool) (messages : List Message) (link : ClientLink) :
    ClientLink :=
  if link.isUp = true then { link with accepted := link.accepted ++ messages.filter accepts }
  else link

theorem ClientLink.takeAll_cons (accepts : Message → Bool) (message : Message)
    (messages : List Message) (link : ClientLink) :
    (link.take accepts message).takeAll accepts messages =
      link.takeAll accepts (message :: messages) := by
  obtain ⟨isUp, accepted⟩ := link
  cases isUp with
  | false => rfl
  | true => cases taken : accepts message <;> simp [ClientLink.take, ClientLink.takeAll, taken]

theorem deliver_publishes (accepts : Message → Bool) (links : List ClientLink) (client : Nat)
    (messages : List Message) :
    (deliver accepts links (publishes client messages))[client]? =
      links[client]?.map (.takeAll accepts messages) := by
  induction messages generalizing links with
  | nil =>
    have same : ClientLink.takeAll accepts [] = id := by
      funext link
      simp [ClientLink.takeAll]
    rw [same, Option.map_id]
    rfl
  | cons message messages inductionHypothesis =>
    have first : (applyEffect accepts links ⟨client, .publish message⟩)[client]? =
        links[client]?.map (.take accepts message) := by
      rw [applyEffect]
      dsimp only
      rw [List.getElem?_modify]
      simp
    show (deliver accepts (applyEffect accepts links ⟨client, .publish message⟩)
      (publishes client messages))[client]? = _
    rw [inductionHypothesis, first, Option.map_map]
    congr 1
    funext link
    exact link.takeAll_cons accepts message messages

end FoxessGateway.Mqtt
