import FoxessGateway.Mqtt.Connections

/-! # Readings that can be discovered

Which fields of a published state have had the configuration of their sensor published on the same
connection.  The fields vary from one telemetry to the next, and the configurations are published
only where the inverter is announced. -/

namespace FoxessGateway.Mqtt

open Protocol Effectful Action Runs

/-! ## The fields that have sensors -/

/-- The fields of a state for which `_publish_discovery` configures a sensor. -/
def sensorFields (config : MqttConfig) (telemetry : Telemetry) : List String :=
  (stateDict config telemetry).filter (· ∉ skippedFields)

theorem textField_skipped {field : String} (skipped : field ∈ skippedFields) (text : Text) :
    (textField field text).filter (· ∉ skippedFields) = [] := by
  rw [textField]
  split
  · rfl
  · rw [List.filter_cons, if_neg]
    · rfl
    · exact fun kept => of_decide_eq_true kept skipped

/-- The fields that every state has. -/
def commonFields : List String :=
  ["r_power_w", "export_power_w", "r_voltage_v", "r_current_a", "r_frequency_hz", "pv_power_w",
    "pv1_power_w", "pv1_voltage_v", "pv1_current_a", "pv2_power_w", "pv2_voltage_v",
    "pv2_current_a", "inverter_temperature_c", "generation_kwh", "export_total_kwh",
    "operating_state", "operating_state_code", "sequence", "raw_u16_000", "raw_u16_002",
    "raw_u16_096", "raw_u16_098", "raw_u16_100", "raw_u16_102", "raw_u16_104", "raw_u16_106",
    "raw_u16_154", "raw_u16_156"]

/-- Only the further strings of panels make a difference. -/
theorem asDict_sensors (telemetry : Telemetry) :
    (asDict telemetry).filter (· ∉ skippedFields) =
      commonFields ++ stringFields telemetry.pv34 := by
  have timestamp : (if telemetry.lastFaultTimestamp.isSome then ["last_fault_timestamp"]
      else []).filter (· ∉ skippedFields) = [] := by split <;> rfl
  have strings : (stringFields telemetry.pv34).filter (· ∉ skippedFields) =
      stringFields telemetry.pv34 := by cases telemetry.pv34 <;> rfl
  rw [asDict]
  simp only [List.filter_append, timestamp, strings]
  rw [textField_skipped (by decide), textField_skipped (by decide), textField_skipped (by decide),
    textField_skipped (by decide), textField_skipped (by decide), textField_skipped (by decide),
    textField_skipped (by decide), textField_skipped (by decide)]
  simp only [List.append_nil, List.nil_append]
  rfl

theorem sensorFields_eq (config : MqttConfig) (telemetry : Telemetry) :
    sensorFields config telemetry =
      (commonFields ++ stringFields telemetry.pv34).filter fun field =>
        config.debug || !isDebugField field := by
  rw [← asDict_sensors, sensorFields, stateDict, List.filter_filter]
  cases config.debug with
  | true => simp
  | false => simp [List.filter_filter, Bool.and_comm]

/-- A state without the further strings has no sensors that another lacks. -/
theorem sensorFields_subset (config : MqttConfig) {telemetry other : Telemetry}
    (covered : telemetry.pv34 ≠ none → other.pv34 ≠ none) :
    sensorFields config telemetry ⊆ sensorFields config other := by
  rw [sensorFields_eq, sensorFields_eq]
  apply List.filter_subset
  intro field member
  rcases List.mem_append.mp member with common | string
  · exact List.mem_append_left _ common
  · apply List.mem_append_right
    cases strings : telemetry.pv34 with
    | none =>
      rw [strings] at string
      cases string
    | some pair =>
      obtain ⟨others, isOthers⟩ :=
        Option.ne_none_iff_exists'.mp (covered (by rw [strings]; exact Option.some_ne_none _))
      rw [strings] at string
      rw [isOthers]
      exact string

/-! ## The machine -/

/-- The message configures the sensor of the field. -/
def Message.Configures (config : MqttConfig) (serial : Text) (field : String) (message : Message) :
    Prop :=
  ∃ device, device.serial = serial ∧ message = config.configure "sensor" device field

def stateMessage (config : MqttConfig) (telemetry : Telemetry) : Message :=
  ⟨config.inverterTopic telemetry.serial "state", .state telemetry, config.retain⟩

/-- The state was accepted on the connection, and before it the configuration of each of its
sensors. -/
def ClientLink.Discovers (config : MqttConfig) (telemetry : Telemetry) (link : ClientLink) : Prop :=
  ∃ earlier later, link.accepted = earlier ++ stateMessage config telemetry :: later ∧
    ∀ field ∈ sensorFields config telemetry,
      ∃ message ∈ earlier, message.Configures config telemetry.serial field

/-- The world, with the telemetry that was announced on the client's connection. -/
structure DiscoveryWorld where
  world : MqttWorld
  announcedTelemetry : List Telemetry

namespace DiscoveryWorld

variable (config : MqttConfig) (deviceNames : Dict Text Text) (seen : DiscoveryWorld)

def start : DiscoveryWorld := ⟨.start config, []⟩

/-- The telemetry that was announced, when the action has led to the next world. -/
def announcedAfter (next : MqttWorld) : MqttAction → List Telemetry
  | .publish telemetry =>
    match seen.world.publisher.announcement config deviceNames telemetry with
    | some _ => telemetry :: seen.announcedTelemetry
    | none => seen.announcedTelemetry
  | .connected client _ | .disconnected client =>
    if seen.world.publisher.client = some client then [] else seen.announcedTelemetry
  | _ =>
    if next.publisher.client = seen.world.publisher.client then seen.announcedTelemetry else []

end DiscoveryWorld

def discoveryMachine (config : MqttConfig) (deviceNames : Dict Text Text) :
    Machine DiscoveryWorld MqttStep MqttEffect :=
  fun seen step =>
  (mqttMachine config deviceNames seen.world step).map fun reached =>
    (⟨reached.1, seen.announcedAfter config deviceNames reached.1 step.action⟩, reached.2)

namespace DiscoveryWorld

variable (config : MqttConfig) (deviceNames : Dict Text Text) (seen : DiscoveryWorld)

/-- Telemetry is published on a connection, and the broker accepts every message. -/
def Reliable (step : MqttStep) : Prop :=
  match step.action with
  | .publish telemetry => ¬ seen.world.publisher.Skips config telemetry.serial →
    (∃ client accepted, seen.world.publisher.client = some client ∧
      seen.world.links[client]? = some ⟨true, accepted⟩) ∧
    ∀ message, step.accepts message = true
  | _ => True

/-- The state that is published can be discovered on the connection. -/
def Discoverable (step : MqttStep) : Prop :=
  match step.action with
  | .publish telemetry => ¬ seen.world.publisher.Skips config telemetry.serial →
    ∀ next shown, discoveryMachine config deviceNames seen step = some (next, shown) →
      ∃ client link, next.world.publisher.client = some client ∧
        next.world.links[client]? = some link ∧ link.Discovers config telemetry
  | _ => True

/-- The state has no further strings, or the inverter is announced with it, or telemetry that has
them was announced for it on the connection. -/
def Covered (step : MqttStep) : Prop :=
  match step.action with
  | .publish telemetry => ¬ seen.world.publisher.Skips config telemetry.serial →
    telemetry.pv34 ≠ none →
    (seen.world.publisher.announcement config deviceNames telemetry).isSome = true ∨
      ∃ earlier ∈ seen.announcedTelemetry,
        earlier.serial = telemetry.serial ∧ earlier.pv34 ≠ none
  | _ => True

/-- What is announced on the connection was accepted on it. -/
structure Configured : Prop where
  known : ∀ serial ∈ seen.world.publisher.announced,
    ∃ telemetry ∈ seen.announcedTelemetry, telemetry.serial = serial
  accepted : seen.announcedTelemetry ≠ [] →
    ∃ client accepted, seen.world.publisher.client = some client ∧
      seen.world.links[client]? = some ⟨true, accepted⟩ ∧
      ∀ telemetry ∈ seen.announcedTelemetry, ∀ field ∈ sensorFields config telemetry,
        ∃ message ∈ accepted, message.Configures config telemetry.serial field

end DiscoveryWorld

/-! ## Publications -/

section Publications

variable {config : MqttConfig} {deviceNames : Dict Text Text} {seen next : DiscoveryWorld}
  {shown : List MqttEffect}

theorem publish_skips {publisher : MqttPublisher} {telemetry : Telemetry}
    (skips : publisher.Skips config telemetry.serial) :
    (publish config deviceNames telemetry).run publisher = ⟨publisher, [], .ok ()⟩ := by
  rw [publish, run_get_bind, doWhen, if_neg (not_not.mpr skips)]
  rfl

/-- The announcement of telemetry configures its sensors. -/
theorem announcement_configures {publisher : MqttPublisher} {telemetry : Telemetry}
    {messages : List Message}
    (announcement : publisher.announcement config deviceNames telemetry = some messages)
    {field : String} (isField : field ∈ sensorFields config telemetry) :
    ∃ message ∈ messages, message.Configures config telemetry.serial field := by
  rw [MqttPublisher.announcement] at announcement
  split at announcement
  · cases announcement
    refine ⟨config.configure "sensor"
      ((publisher.note telemetry).deviceOf deviceNames telemetry) field, ?_, _, rfl, rfl⟩
    simp only [discoveryMessages, List.mem_append]
    exact .inl (.inl (.inl (.inl (.inl (.inr (List.mem_map_of_mem isField))))))
  · cases announcement

/-- An inverter whose telemetry is not announced was announced before. -/
theorem announced_of_announcement_none {publisher : MqttPublisher} {telemetry : Telemetry}
    (sends : ¬ publisher.Skips config telemetry.serial)
    (announcement : publisher.announcement config deviceNames telemetry = none) :
    telemetry.serial ∈ publisher.announced := by
  rw [MqttPublisher.announcement] at announcement
  by_contra unknown
  have announces : publisher.shouldAnnounce telemetry = true := decide_eq_true (.inl unknown)
  rw [if_pos ⟨sends, announces⟩] at announcement
  cases announcement

/-- What a publication that is accepted as a whole leaves. -/
theorem publish_reaches {telemetry : Telemetry} {accepts : Message → Bool}
    (sends : ¬ seen.world.publisher.Skips config telemetry.serial)
    (reliable : seen.Reliable config ⟨.publish telemetry, accepts⟩)
    (stepped : discoveryMachine config deviceNames seen ⟨.publish telemetry, accepts⟩ =
      some (next, shown)) :
    ∃ client accepted, seen.world.publisher.client = some client ∧
      seen.world.links[client]? = some ⟨true, accepted⟩ ∧
      next.world.publisher = seen.world.publisher.published config deviceNames telemetry ∧
      next.world.links[client]? = some ⟨true, accepted ++
        ((seen.world.publisher.announcement config deviceNames telemetry).getD [] ++
          telemetryMessages config telemetry)⟩ ∧
      next.announcedTelemetry =
        seen.announcedAfter config deviceNames next.world (.publish telemetry) := by
  obtain ⟨⟨client, accepted, isClient, isUp⟩, takes⟩ := reliable sends
  obtain ⟨_, isCurrent, ran⟩ := publish_sends config deviceNames sends
  obtain rfl := Option.some.inj (isClient.symm.trans isCurrent)
  obtain ⟨⟨after, effects⟩, reached, same⟩ := Option.map_eq_some_iff.mp stepped
  cases same
  obtain ⟨samePublisher, sameLinks, _⟩ := mqttMachine_publish reached
  rw [ran] at samePublisher sameLinks
  refine ⟨client, accepted, isClient, isUp, samePublisher, ?_, rfl⟩
  rw [sameLinks, deliver_publishes, isUp, Option.map_some, ClientLink.takeAll, if_pos rfl,
    List.filter_eq_self.mpr fun message _ => takes message]

theorem published_client (publisher : MqttPublisher) (telemetry : Telemetry) :
    (publisher.published config deviceNames telemetry).client = publisher.client := by
  rw [MqttPublisher.published]
  split <;> rfl

/-- What is announced was accepted on the connection that there is. -/
theorem DiscoveryWorld.Configured.accepted_on (configured : seen.Configured config) {client : Nat}
    {accepted : List Message} (isClient : seen.world.publisher.client = some client)
    (isUp : seen.world.links[client]? = some ⟨true, accepted⟩) {earlier : Telemetry}
    (member : earlier ∈ seen.announcedTelemetry) {field : String}
    (isField : field ∈ sensorFields config earlier) :
    ∃ message ∈ accepted, message.Configures config earlier.serial field := by
  obtain ⟨_, _, isCurrent, wasUp, configures⟩ := configured.accepted (List.ne_nil_of_mem member)
  obtain rfl := Option.some.inj (isClient.symm.trans isCurrent)
  cases isUp.symm.trans wasUp
  exact configures earlier member field isField

/-- What is announced stays accepted, and what is announced now is accepted now. -/
theorem publish_configured {telemetry : Telemetry} {accepts : Message → Bool}
    (configured : seen.Configured config)
    (reliable : seen.Reliable config ⟨.publish telemetry, accepts⟩)
    (stepped : discoveryMachine config deviceNames seen ⟨.publish telemetry, accepts⟩ =
      some (next, shown)) : next.Configured config := by
  by_cases skips : seen.world.publisher.Skips config telemetry.serial
  · obtain ⟨⟨after, effects⟩, reached, same⟩ := Option.map_eq_some_iff.mp stepped
    cases same
    obtain ⟨samePublisher, sameLinks, _⟩ := mqttMachine_publish reached
    rw [publish_skips skips] at samePublisher sameLinks
    have noAnnouncement : seen.world.publisher.announcement config deviceNames telemetry = none :=
      if_neg fun both => both.1 skips
    constructor
    · rw [samePublisher, DiscoveryWorld.announcedAfter, noAnnouncement]
      exact configured.known
    · rw [samePublisher, sameLinks, DiscoveryWorld.announcedAfter, noAnnouncement]
      exact configured.accepted
  · obtain ⟨client, accepted, isClient, isUp, samePublisher, isLink, sameAnnounced⟩ :=
      publish_reaches skips reliable stepped
    have sameClient : next.world.publisher.client = some client := by
      rw [samePublisher, published_client, isClient]
    cases announcement : seen.world.publisher.announcement config deviceNames telemetry with
    | none =>
      rw [DiscoveryWorld.announcedAfter, announcement] at sameAnnounced
      constructor
      · rw [samePublisher, MqttPublisher.published, announcement, sameAnnounced]
        exact configured.known
      · intro _
        refine ⟨client, _, sameClient, isLink, ?_⟩
        intro earlier member field isField
        rw [sameAnnounced] at member
        obtain ⟨message, isOne, configures⟩ :=
          configured.accepted_on isClient isUp member isField
        exact ⟨message, List.mem_append_left _ isOne, configures⟩
    | some messages =>
      rw [DiscoveryWorld.announcedAfter, announcement] at sameAnnounced
      rw [announcement] at isLink
      constructor
      · rw [samePublisher, MqttPublisher.published, announcement, sameAnnounced]
        intro serial member
        rcases Finset.mem_insert.mp member with rfl | earlier
        · exact ⟨telemetry, List.mem_cons_self, rfl⟩
        · obtain ⟨known, isKnown, same⟩ := configured.known serial earlier
          exact ⟨known, List.mem_cons_of_mem _ isKnown, same⟩
      · intro _
        refine ⟨client, _, sameClient, isLink, ?_⟩
        intro earlier member field isField
        rw [sameAnnounced] at member
        rcases List.mem_cons.mp member with rfl | known
        · obtain ⟨message, isOne, configures⟩ := announcement_configures announcement isField
          exact ⟨message, List.mem_append_right _ (List.mem_append_left _ isOne), configures⟩
        · obtain ⟨message, isOne, configures⟩ :=
            configured.accepted_on isClient isUp known isField
          exact ⟨message, List.mem_append_left _ isOne, configures⟩

/-- A state that is covered can be discovered. -/
theorem publish_discoverable {step : MqttStep} (configured : seen.Configured config)
    (reliable : seen.Reliable config step) (covered : seen.Covered config deviceNames step) :
    seen.Discoverable config deviceNames step := by
  obtain ⟨action, accepts⟩ := step
  cases action with
  | publish telemetry =>
    intro sends next shown stepped
    obtain ⟨client, accepted, isClient, isUp, samePublisher, isLink, _⟩ :=
      publish_reaches sends reliable stepped
    refine ⟨client, _, ?_, isLink, accepted ++
      (seen.world.publisher.announcement config deviceNames telemetry).getD [],
      config.availability telemetry.serial "online".toList :: scalarMessages config telemetry,
      ?_, fun field isField => ?_⟩
    · rw [samePublisher, published_client, isClient]
    · rw [List.append_assoc]
      rfl
    · cases announcement : seen.world.publisher.announcement config deviceNames telemetry with
      | some messages =>
        obtain ⟨message, isOne, configures⟩ := announcement_configures announcement isField
        exact ⟨message, List.mem_append_right _ isOne, configures⟩
      | none =>
        -- telemetry that was announced for the inverter has all the fields of this one
        obtain ⟨earlier, member, sameSerial, all⟩ : ∃ earlier ∈ seen.announcedTelemetry,
            earlier.serial = telemetry.serial ∧
              (telemetry.pv34 ≠ none → earlier.pv34 ≠ none) := by
          by_cases strings : telemetry.pv34 = none
          · obtain ⟨earlier, member, same⟩ :=
              configured.known _ (announced_of_announcement_none sends announcement)
            exact ⟨earlier, member, same, absurd strings⟩
          · rcases covered sends strings with announces | ⟨earlier, member, same, hasStrings⟩
            · rw [announcement] at announces
              cases announces
            · exact ⟨earlier, member, same, fun _ => hasStrings⟩
        obtain ⟨message, isOne, configures⟩ := configured.accepted_on isClient isUp member
          (sensorFields_subset config all isField)
        rw [sameSerial] at configures
        exact ⟨message, List.mem_append_left _ isOne, configures⟩
  | _ => trivial

end Publications

/-! ## Other steps -/

section Others

variable {config : MqttConfig} {deviceNames : Dict Text Text} {seen next : DiscoveryWorld}
  {shown : List MqttEffect}

/-- What a step leaves. -/
theorem discoveryMachine_step {step : MqttStep}
    (stepped : discoveryMachine config deviceNames seen step = some (next, shown)) :
    let outcome := (step.action.run config deviceNames seen.world.links.length).run
      seen.world.publisher
    ∃ links, seen.world.linksAt step.action = some links ∧
      next.world.publisher = outcome.state ∧
      next.world.links = deliver step.accepts links outcome.effects ∧
      next.announcedTelemetry = seen.announcedAfter config deviceNames next.world step.action := by
  obtain ⟨⟨after, effects⟩, reached, same⟩ := Option.map_eq_some_iff.mp stepped
  cases same
  rw [mqttMachine] at reached
  cases begins : seen.world.linksAt step.action with
  | none =>
    rw [begins] at reached
    cases reached
  | some links =>
    rw [begins] at reached
    cases reached
    exact ⟨links, rfl, rfl, rfl, rfl⟩

theorem DiscoveryWorld.Configured.forgotten (announced : next.world.publisher.announced = ∅)
    (noTelemetry : next.announcedTelemetry = []) : next.Configured config where
  known serial member := by
    rw [announced] at member
    exact absurd member (Finset.notMem_empty serial)
  accepted some := absurd noTelemetry some

/-- Nothing is announced where the client has no connection. -/
theorem DiscoveryWorld.Configured.nothing (configured : seen.Configured config)
    (noTelemetry : seen.announcedTelemetry = []) : seen.world.publisher.announced = ∅ := by
  rw [Finset.eq_empty_iff_forall_notMem]
  intro serial member
  obtain ⟨telemetry, isOne, _⟩ := configured.known serial member
  rw [noTelemetry] at isOne
  cases isOne

/-- The connection is the same, and more is accepted on it. -/
theorem DiscoveryWorld.Configured.grows (configured : seen.Configured config)
    (same : next.world.publisher.announcedBy = seen.world.publisher.announcedBy)
    (sameTelemetry : next.announcedTelemetry = seen.announcedTelemetry)
    (grows : ∀ client accepted, seen.world.publisher.client = some client →
      seen.world.links[client]? = some ⟨true, accepted⟩ →
      ∃ later, next.world.links[client]? = some ⟨true, later⟩ ∧ accepted ⊆ later) :
    next.Configured config := by
  have sameClient : next.world.publisher.client = seen.world.publisher.client :=
    congrArg Prod.fst same
  have sameAnnounced : next.world.publisher.announced = seen.world.publisher.announced :=
    congrArg Prod.snd same
  constructor
  · rw [sameAnnounced, sameTelemetry]
    exact configured.known
  · rw [sameClient, sameTelemetry]
    intro some
    obtain ⟨client, accepted, isClient, isUp, configures⟩ := configured.accepted some
    obtain ⟨later, stillUp, subset⟩ := grows client accepted isClient isUp
    refine ⟨client, later, isClient, stillUp, fun telemetry member field isField => ?_⟩
    obtain ⟨message, isOne, isConfiguration⟩ := configures telemetry member field isField
    exact ⟨message, subset isOne, isConfiguration⟩

/-- Plain calls of a publisher whose connection stays. -/
theorem plain_configured {step : MqttStep}
    (stepped : discoveryMachine config deviceNames seen step = some (next, shown))
    (configured : seen.Configured config)
    (plain : Plain (step.action.run config deviceNames seen.world.links.length))
    (stays : ∀ client accepted, seen.world.publisher.client = some client →
      seen.world.links[client]? = some ⟨true, accepted⟩ → step.action ≠ .disconnected client)
    (sameTelemetry : next.announcedTelemetry = seen.announcedTelemetry) :
    next.Configured config := by
  obtain ⟨links, begins, samePublisher, sameLinks, _⟩ := discoveryMachine_step stepped
  apply configured.grows ?_ sameTelemetry
  · intro client accepted isClient isUp
    rcases linksAt_up isClient isUp begins with stillUp | lost
    · obtain ⟨⟨up, later⟩, isAfter, grows⟩ :=
        deliver_grows step.accepts (plain.shows seen.world.publisher) stillUp
      cases grows.isUp
      exact ⟨later, by rw [sameLinks, isAfter], grows.accepted⟩
    · exact absurd lost (stays client accepted isClient isUp)
  · rw [samePublisher]
    exact plain.keeps seen.world.publisher

theorem connected_configured {client : Nat} {success : Bool} {accepts : Message → Bool}
    (configured : seen.Configured config)
    (stepped : discoveryMachine config deviceNames seen ⟨.connected client success, accepts⟩ =
      some (next, shown)) : next.Configured config := by
  have plain := onConnect_plain config client success
  obtain ⟨links, begins, samePublisher, _, sameTelemetry⟩ := discoveryMachine_step stepped
  rw [DiscoveryWorld.announcedAfter] at sameTelemetry
  by_cases isCurrent : seen.world.publisher.client = some client
  · rw [if_pos isCurrent] at sameTelemetry
    -- only a client without a connection gets one, so nothing was announced
    have noTelemetry : seen.announcedTelemetry = [] := by
      by_contra some
      obtain ⟨current, accepted, isClient, isUp, _⟩ := configured.accepted some
      obtain rfl := Option.some.inj (isClient.symm.trans isCurrent)
      rw [MqttWorld.linksAt, isUp] at begins
      cases begins
    apply DiscoveryWorld.Configured.forgotten ?_ sameTelemetry
    rw [samePublisher]
    exact (congrArg Prod.snd (plain.keeps seen.world.publisher)).trans
      (configured.nothing noTelemetry)
  · rw [if_neg isCurrent] at sameTelemetry
    apply plain_configured stepped configured plain ?_ sameTelemetry
    intro _ _ _ _ same
    cases same

theorem disconnected_configured {client : Nat} {accepts : Message → Bool}
    (configured : seen.Configured config)
    (stepped : discoveryMachine config deviceNames seen ⟨.disconnected client, accepts⟩ =
      some (next, shown)) : next.Configured config := by
  obtain ⟨links, begins, samePublisher, sameLinks, sameTelemetry⟩ := discoveryMachine_step stepped
  rw [DiscoveryWorld.announcedAfter] at sameTelemetry
  by_cases isCurrent : seen.world.publisher.client = some client
  · rw [if_pos isCurrent] at sameTelemetry
    apply DiscoveryWorld.Configured.forgotten ?_ sameTelemetry
    rw [samePublisher]
    exact onDisconnect_forgets isCurrent
  · -- the publisher does not listen to a client that it has given up
    rw [if_neg isCurrent] at sameTelemetry
    dsimp only [MqttAction.run] at samePublisher sameLinks
    rw [onDisconnect_run_stale isCurrent] at samePublisher sameLinks
    apply configured.grows (by rw [samePublisher]) sameTelemetry
    intro current accepted isClient isUp
    rcases linksAt_up isClient isUp begins with stillUp | lost
    · exact ⟨accepted, by rw [sameLinks]; exact stillUp, List.Subset.refl _⟩
    · cases lost
      exact absurd isClient isCurrent

/-- The publisher has given up its client, and with it what it has announced. -/
theorem givenUp_configured (forgot : next.world.publisher.announced = ∅)
    (configured : seen.Configured config)
    (sameTelemetry : next.announcedTelemetry =
      if next.world.publisher.client = seen.world.publisher.client then seen.announcedTelemetry
      else [])
    (apart : ∀ client, client < seen.world.links.length →
      next.world.publisher.client ≠ some client) : next.Configured config := by
  apply DiscoveryWorld.Configured.forgotten forgot
  rw [sameTelemetry]
  split
  · rename_i same
    by_contra some
    obtain ⟨client, accepted, isClient, isUp, _⟩ := configured.accepted some
    obtain ⟨isMade, _⟩ := List.getElem?_eq_some_iff.mp isUp
    exact apart client isMade (same.trans isClient)
  · rfl

theorem close_client (publisher : MqttPublisher) : (close.run publisher).state.client = none := by
  rw [close]
  cases isClient : publisher.client with
  | none => rw [teardownClient_run_none isClient, isClient]
  | some client => rw [teardownClient_run isClient]; rfl

theorem DiscoveryWorld.Configured.isSound (configured : seen.Configured config) :
    seen.world.publisher.IsSound := by
  intro noClient
  apply configured.nothing
  by_contra some
  obtain ⟨client, _, isClient, _⟩ := configured.accepted some
  rw [noClient] at isClient
  cases isClient

theorem rebuilt_client (config : MqttConfig) (publisher : MqttPublisher) (client : Nat) :
    ((teardownClient >>= fun _ => connect config client).run publisher).state.client = some client ∨
      ((teardownClient >>= fun _ => connect config client).run publisher).state.client = none := by
  have connects : ∀ before : MqttPublisher, before.client = none →
      ((connect config client).run before).state.client = some client ∨
        ((connect config client).run before).state.client = none := by
    intro before noClient
    by_cases enabled : config.enabled = true
    · rw [connect_run enabled]
      exact .inl rfl
    · rw [connect_run_disabled enabled]
      exact .inr noClient
  cases isClient : publisher.client with
  | none =>
    rw [run_bind_ok (by rw [teardownClient_run_none isClient]), teardownClient_run_none isClient]
    exact connects _ isClient
  | some current =>
    rw [run_bind_ok (by rw [teardownClient_run isClient]), teardownClient_run isClient]
    exact connects _ rfl

theorem ensureConnected_configured {running : Bool} {accepts : Message → Bool}
    (configured : seen.Configured config)
    (stepped : discoveryMachine config deviceNames seen ⟨.ensureConnected running, accepts⟩ =
      some (next, shown)) : next.Configured config := by
  obtain ⟨links, begins, samePublisher, sameLinks, sameTelemetry⟩ := discoveryMachine_step stepped
  cases begins
  dsimp only [MqttAction.run] at samePublisher sameLinks
  obtain idle | ⟨current, isCurrent, _, published⟩ | rebuilt :=
    ensureConnected_cases config running seen.world.links.length seen.world.publisher
  · rw [idle] at samePublisher sameLinks
    apply configured.grows (by rw [samePublisher]) (sameTelemetry.trans (if_pos (by
      rw [samePublisher])))
    intro client accepted isClient isUp
    exact ⟨accepted, by rw [sameLinks]; exact isUp, List.Subset.refl _⟩
  · rw [published] at samePublisher sameLinks
    apply configured.grows (by rw [samePublisher]) (sameTelemetry.trans (if_pos (by
      rw [samePublisher])))
    intro client accepted isClient isUp
    obtain rfl := Option.some.inj (isClient.symm.trans isCurrent)
    refine ⟨accepted ++ [config.online].filter accepts, ?_, List.subset_append_left _ _⟩
    rw [sameLinks, deliver_publishes, isUp]
    rfl
  · -- the loop is dead, and the client that takes the place of the other is a new one
    rw [rebuilt] at samePublisher
    obtain ⟨_, returned, forgot⟩ :=
      teardownClient_forgets seen.world.publisher configured.isSound
    apply givenUp_configured ?_ configured sameTelemetry
    · intro client isMade same
      rw [samePublisher] at same
      rcases rebuilt_client config seen.world.publisher seen.world.links.length with
        isNew | noClient
      · exact absurd isMade (Nat.not_lt.mpr (Option.some.inj (isNew.symm.trans same)).le)
      · cases noClient.symm.trans same
    · rw [samePublisher, run_bind_ok returned]
      exact (connect_announced config _ _).trans forgot

/-- Every other step keeps what is announced accepted. -/
theorem other_configured {step : MqttStep} (other : ∀ telemetry, step.action ≠ .publish telemetry)
    (configured : seen.Configured config)
    (stepped : discoveryMachine config deviceNames seen step = some (next, shown)) :
    next.Configured config := by
  obtain ⟨action, accepts⟩ := step
  by_cases lost : ∃ client, action = .disconnected client
  · obtain ⟨client, rfl⟩ := lost
    exact disconnected_configured configured stepped
  -- calls of a client that stays
  have stays (plain : Plain (action.run config deviceNames seen.world.links.length))
      (sameTelemetry : seen.announcedAfter config deviceNames next.world action =
        if next.world.publisher.client = seen.world.publisher.client then seen.announcedTelemetry
        else []) : next.Configured config := by
    obtain ⟨_, _, samePublisher, _, isTelemetry⟩ := discoveryMachine_step stepped
    have sameClient : next.world.publisher.client = seen.world.publisher.client := by
      rw [samePublisher]
      exact congrArg Prod.fst (plain.keeps seen.world.publisher)
    apply plain_configured stepped configured plain fun client _ _ _ => not_exists.mp lost client
    rw [isTelemetry, sameTelemetry, if_pos sameClient]
  cases action with
  | publish telemetry => exact absurd rfl (other telemetry)
  | publishInverterAvailability serial status =>
    exact stays (publishInverterAvailability_plain config serial status) rfl
  | registerActivePowerLimitHandler serial =>
    exact stays (registerActivePowerLimitHandler_plain config serial) rfl
  | unregisterActivePowerLimitHandler serial =>
    exact stays (unregisterActivePowerLimitHandler_plain config serial) rfl
  | publishActivePowerLimitDiscovery serial =>
    exact stays (publishActivePowerLimitDiscovery_plain config deviceNames serial) rfl
  | clearActivePowerLimitDiscovery serial =>
    exact stays (clearActivePowerLimitDiscovery_plain config serial) rfl
  | publishActivePowerLimitState serial value =>
    exact stays (publishActivePowerLimitState_plain config serial value) rfl
  | publishActivePowerLimitResult serial status =>
    exact stays (publishActivePowerLimitResult_plain config serial status) rfl
  | ensureConnected running => exact ensureConnected_configured configured stepped
  | close =>
    obtain ⟨_, _, samePublisher, _, sameTelemetry⟩ := discoveryMachine_step stepped
    apply givenUp_configured ?_ configured sameTelemetry
    · intro client _ same
      rw [samePublisher] at same
      cases (close_client seen.world.publisher).symm.trans same
    · rw [samePublisher]
      obtain ⟨_, _, forgot⟩ := teardownClient_forgets seen.world.publisher configured.isSound
      exact forgot
  | connected client success => exact connected_configured configured stepped
  | disconnected client => exact absurd ⟨client, rfl⟩ lost

end Others

/-! ## Runs -/

theorem DiscoveryWorld.start_configured (config : MqttConfig) :
    (DiscoveryWorld.start config).Configured config :=
  .forgotten (connect_announced config 0 .fresh) rfl

theorem configured_step {config : MqttConfig} {deviceNames : Dict Text Text}
    {seen next : DiscoveryWorld} {step : MqttStep} {shown : List MqttEffect}
    (configured : seen.Configured config) (reliable : seen.Reliable config step)
    (stepped : discoveryMachine config deviceNames seen step = some (next, shown)) :
    next.Configured config := by
  obtain ⟨action, accepts⟩ := step
  by_cases publishes : ∃ telemetry, action = .publish telemetry
  · obtain ⟨telemetry, rfl⟩ := publishes
    exact publish_configured configured reliable stepped
  · exact other_configured (not_exists.mp publishes) configured stepped

/-- **Published states can be discovered** in every run in which the broker accepts what is
published and the further strings are covered. -/
theorem states_discoverable (config : MqttConfig) (deviceNames : Dict Text Text)
    (steps : List MqttStep)
    (reliable : Along (discoveryMachine config deviceNames) (DiscoveryWorld.Reliable config)
      (.start config) steps)
    (covered : Along (discoveryMachine config deviceNames)
      (DiscoveryWorld.Covered config deviceNames) (.start config) steps) :
    Along (discoveryMachine config deviceNames) (DiscoveryWorld.Discoverable config deviceNames)
      (.start config) steps := by
  apply Along.of_invariant (DiscoveryWorld.Configured config) ?_ ?_
    (DiscoveryWorld.start_configured config) (reliable.and covered)
  · exact fun configured within stepped => configured_step configured within.1 stepped
  · exact fun configured within => publish_discoverable configured within.1 within.2

/-- What is published comes from a payload. -/
def MqttStep.IsDecoded (step : MqttStep) : Prop :=
  match step.action with
  | .publish telemetry => ∃ payload source, decodeTelemetry payload source = .ok telemetry
  | _ => True

/-- The inverter of `idleTelemetry`, with light on its third string. -/
def thirdStringTelemetry : Telemetry :=
  { idleTelemetry with
    pvPowerW := 5
    pv34 := some (⟨5, ⟨0, 256, 3⟩, ⟨0, 512, 3⟩⟩, ⟨0, ⟨0, 256, 3⟩, ⟨0, 512, 3⟩⟩) }

theorem thirdStringTelemetry_decoded :
    decodeTelemetry (List.replicate 53 0 ++ 5 :: List.replicate 101 0 ++ 2 :: List.replicate 82 0)
      ⟨"A".toList, [], [], [], [], none, [], []⟩ = .ok thirdStringTelemetry := by
  decide +kernel

def MqttConfig.homeAssistant : MqttConfig :=
  ⟨"broker".toList, "foxess".toList, "homeassistant".toList, true, false⟩

/-- The broker takes the connection and accepts everything. -/
def acceptedSteps (published : List Telemetry) : List MqttStep :=
  (.connected 0 true :: published.map .publish).map fun action => ⟨action, fun _ => true⟩

def thirdStringStep : MqttStep := ⟨.publish thirdStringTelemetry, fun _ => true⟩

/-- The first client has a connection. -/
def DiscoveryWorld.HasConnection (seen : DiscoveryWorld) : Prop :=
  seen.world.publisher.client = some 0 ∧
    ∃ accepted, seen.world.links[0]? = some ⟨true, accepted⟩

theorem accepted_reliable (published : List Telemetry) :
    Along (discoveryMachine .homeAssistant .empty) (DiscoveryWorld.Reliable .homeAssistant)
      (.start .homeAssistant) (acceptedSteps published) := by
  refine ⟨trivial, fun next shown stepped => ?_⟩
  have connected : next.HasConnection := by
    cases stepped
    exact ⟨rfl, _, rfl⟩
  clear stepped
  induction published generalizing next shown with
  | nil => trivial
  | cons telemetry published inductionHypothesis =>
    obtain ⟨isClient, accepted, isUp⟩ := connected
    have reliable : next.Reliable .homeAssistant ⟨.publish telemetry, fun _ => true⟩ :=
      fun _ => ⟨⟨0, accepted, isClient, isUp⟩, fun _ => rfl⟩
    refine ⟨reliable, fun later laterShown stepped => inductionHypothesis later laterShown ?_⟩
    by_cases skips : next.world.publisher.Skips .homeAssistant telemetry.serial
    · obtain ⟨_, begins, samePublisher, sameLinks, _⟩ := discoveryMachine_step stepped
      cases begins
      dsimp only [MqttAction.run] at samePublisher sameLinks
      rw [publish_skips skips] at samePublisher sameLinks
      exact ⟨by rw [samePublisher, isClient], accepted, by rw [sameLinks]; exact isUp⟩
    · obtain ⟨client, _, isCurrent, _, samePublisher, isLink, _⟩ :=
        publish_reaches skips reliable stepped
      obtain rfl := Option.some.inj (isClient.symm.trans isCurrent)
      exact ⟨by rw [samePublisher, published_client, isClient], _, isLink⟩

/-- The strings are there from the first telemetry on. -/
theorem states_discoverable_thirdString :
    Along (discoveryMachine .homeAssistant .empty)
      (DiscoveryWorld.Discoverable .homeAssistant .empty) (.start .homeAssistant)
      (acceptedSteps [thirdStringTelemetry, idleTelemetry, thirdStringTelemetry]) := by
  apply states_discoverable _ _ _ (accepted_reliable _)
  refine ⟨trivial, fun first _ isFirst => ⟨fun _ _ => .inl ?_, fun second _ isSecond => ?_⟩⟩
  · cases isFirst
    decide +kernel
  · refine ⟨fun _ strings => absurd rfl strings, fun third _ isThird => ⟨fun _ _ => .inr ?_, ?_⟩⟩
    · -- the first telemetry was announced on the connection
      refine ⟨thirdStringTelemetry, ?_, rfl, Option.some_ne_none _⟩
      cases isFirst
      cases isSecond
      cases isThird
      decide +kernel
    · exact fun _ _ _ => trivial

/-- The message configures the power of the third string. -/
def Message.ConfiguresThirdString (message : Message) : Prop :=
  message.topic = MqttConfig.homeAssistant.entityTopic "sensor" "A".toList "pv3_power_w".toList

instance (message : Message) : Decidable message.ConfiguresThirdString :=
  inferInstanceAs (Decidable (_ = _))

theorem states_undiscoverable :
    ¬ ∀ (config : MqttConfig) (deviceNames : Dict Text Text) (steps : List MqttStep),
      (∀ step ∈ steps, step.IsDecoded) →
      Along (discoveryMachine config deviceNames) (DiscoveryWorld.Reliable config)
        (.start config) steps →
      Along (discoveryMachine config deviceNames)
        (DiscoveryWorld.Discoverable config deviceNames) (.start config) steps := by
  intro claim
  have decoded : ∀ step ∈ acceptedSteps [idleTelemetry, thirdStringTelemetry],
      step.IsDecoded := by
    intro step member
    simp only [acceptedSteps, List.map_cons, List.map_nil, List.mem_cons, List.not_mem_nil,
      or_false] at member
    rcases member with rfl | rfl | rfl
    · trivial
    · exact ⟨_, _, idleTelemetry_decoded⟩
    · exact ⟨_, _, thirdStringTelemetry_decoded⟩
  have within := claim .homeAssistant .empty _ decoded (accepted_reliable _)
  have check : ((run (discoveryMachine .homeAssistant .empty) (.start .homeAssistant)
      (acceptedSteps [idleTelemetry])).bind fun reached =>
        (discoveryMachine .homeAssistant .empty reached.1
          thirdStringStep).map fun stepped =>
            (reached.1.world.publisher.client, stepped.1.world.links.all fun link =>
              link.accepted.all fun message => ¬ message.ConfiguresThirdString)) =
      some (some 0, true) := by
    decide +kernel
  obtain ⟨⟨seen, trace⟩, ran, later⟩ := Option.bind_eq_some_iff.mp check
  obtain ⟨⟨next, shown⟩, stepped, same⟩ := Option.map_eq_some_iff.mp later
  simp only [Prod.mk.injEq] at same
  have split : acceptedSteps [idleTelemetry, thirdStringTelemetry] =
      acceptedSteps [idleTelemetry] ++ [thirdStringStep] := rfl
  rw [split] at within
  have sends : ¬ seen.world.publisher.Skips .homeAssistant thirdStringTelemetry.serial := by
    rw [MqttPublisher.Skips, same.1]
    decide
  obtain ⟨client, link, _, isLink, earlier, rest, isAccepted, configured⟩ :=
    (within.after_run ran).1 sends next shown stepped
  obtain ⟨message, isOne, device, sameSerial, rfl⟩ := configured "pv3_power_w" (by decide)
  -- nothing that the broker accepted is the configuration of the third string
  have missing := List.all_eq_true.mp same.2 link (List.mem_of_getElem? isLink)
  have isMissing := List.all_eq_true.mp missing (MqttConfig.homeAssistant.configure "sensor" device
    "pv3_power_w") (by rw [isAccepted]; exact List.mem_append_left _ isOne)
  apply of_decide_eq_true isMissing
  rw [Message.ConfiguresThirdString, MqttConfig.configure, sameSerial]
  rfl

end FoxessGateway.Mqtt
