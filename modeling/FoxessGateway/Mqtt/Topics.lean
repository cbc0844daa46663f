import FoxessGateway.Mqtt.Messages

/-! # Topics that are apart

Which topics of the gateway can be the same.  A topic ends in its leaf, and most of them are told
apart by that, whatever the prefixes and the serials are. -/

namespace FoxessGateway.Mqtt

open Protocol

/-- Topics that end differently. -/
theorem ne_of_suffix {topic other leaf ending : Text} (ends : leaf <:+ topic)
    (otherEnds : ending <:+ other) (apart : ¬ leaf <:+ ending) (apartToo : ¬ ending <:+ leaf) :
    topic ≠ other := by
  rintro rfl
  rcases List.suffix_or_suffix_of_suffix ends otherEnds with shorter | longer
  · exact apart shorter
  · exact apartToo longer

namespace MqttConfig

variable (config : MqttConfig)

theorem inverterTopic_eq (serial : Text) (leaf : String) :
    config.inverterTopic serial leaf =
      config.topicPrefix ++ '/' :: (serial ++ '/' :: leaf.toList) := by
  simp [inverterTopic, path, List.intercalate]

theorem inverterTopic_inj {first second : Text} {leaf : String} :
    config.inverterTopic first leaf = config.inverterTopic second leaf ↔ first = second := by
  rw [inverterTopic_eq, inverterTopic_eq, List.append_cancel_left_eq, List.cons.injEq,
    List.append_cancel_right_eq]
  exact and_iff_right rfl

theorem inverterTopic_suffix (serial : Text) (leaf : String) :
    leaf.toList <:+ config.inverterTopic serial leaf := by
  rw [inverterTopic_eq]
  exact ⟨config.topicPrefix ++ '/' :: (serial ++ ['/']), by simp⟩

theorem entityTopic_eq (component : String) (serial field : Text) :
    config.entityTopic component serial field = config.discoveryPrefix ++ '/' ::
      (component.toList ++ '/' :: ("foxess_".toList ++ (serial ++ '/' ::
        (field ++ '/' :: "config".toList)))) := by
  simp [entityTopic, path, List.intercalate]

theorem entityTopic_suffix (component : String) (serial field : Text) :
    "config".toList <:+ config.entityTopic component serial field := by
  rw [entityTopic_eq]
  exact ⟨config.discoveryPrefix ++ '/' :: (component.toList ++ '/' :: ("foxess_".toList ++
    (serial ++ '/' :: (field ++ ['/'])))), by simp⟩

/-- The topics of an inverter's values are no topics of its entities. -/
theorem inverterTopic_ne_entityTopic {serial other field : Text} {leaf component : String}
    (apart : ¬ leaf.toList <:+ "config".toList) (apartToo : ¬ "config".toList <:+ leaf.toList) :
    config.inverterTopic serial leaf ≠ config.entityTopic component other field :=
  ne_of_suffix (config.inverterTopic_suffix serial leaf)
    (config.entityTopic_suffix component other field) apart apartToo

end MqttConfig

/-! ## The messages of telemetry -/

section Telemetry

variable (config : MqttConfig) (device : DeviceInfo) (telemetry : Telemetry)

theorem discoveryMessages_topic {message : Message}
    (member : message ∈ discoveryMessages config device telemetry) :
    ∃ component ∈ ["sensor", "binary_sensor"], ∃ serial field,
      message.topic = config.entityTopic component serial field := by
  have configured : ∀ component ∈ ["sensor", "binary_sensor"], ∀ field,
      ∃ component' ∈ ["sensor", "binary_sensor"], ∃ serial field',
        (config.configure component device field).topic =
          config.entityTopic component' serial field' :=
    fun component known _ => ⟨component, known, _, _, rfl⟩
  have removed : ∀ component ∈ ["sensor", "binary_sensor"], ∀ serial field,
      ∃ component' ∈ ["sensor", "binary_sensor"], ∃ serial' field',
        (config.unconfigure component serial field).topic =
          config.entityTopic component' serial' field' :=
    fun component known _ _ => ⟨component, known, _, _, rfl⟩
  simp only [discoveryMessages, List.mem_append, List.mem_singleton, List.mem_map] at member
  rcases member with (((((rfl | ⟨field, _, rfl⟩) | rfl) | faults) | mesh) | legacy) | debug
  · exact configured _ (by decide) _
  · exact configured _ (by decide) _
  · exact configured _ (by decide) _
  · split at faults
    · simp only [faultDiscovery, List.mem_cons, List.not_mem_nil, or_false] at faults
      rcases faults with rfl | rfl | rfl | rfl <;> exact configured _ (by decide) _
    · simp only [clearFaultDiscovery, List.mem_cons, List.not_mem_nil, or_false] at faults
      rcases faults with rfl | rfl | rfl | rfl <;> exact removed _ (by decide) _ _
  · simp only [meshDiscovery, List.mem_cons, List.not_mem_nil, or_false] at mesh
    rcases mesh with rfl | rfl <;> exact configured _ (by decide) _
  · rw [clearLegacyDiscovery, List.mem_singleton] at legacy
    rw [legacy]
    exact removed _ (by decide) _ _
  · split at debug
    · cases debug
    · obtain ⟨field, _, rfl⟩ := List.mem_map.mp debug
      exact removed _ (by decide) _ _

/-- The leaves under which readings are published. -/
def scalarLeaves : List String :=
  ["0/power", "0/ac/power", "0/ac/export_power", "0/ac/voltage", "0/ac/current", "0/ac/frequency",
    "0/temperature", "0/yieldtotal", "0/status", "1/power", "1/voltage", "1/current", "2/power",
    "2/voltage", "2/current", "3/power", "3/voltage", "3/current", "4/power", "4/voltage",
    "4/current", "0/sequence", "0/status_code"]

theorem scalarValues_leaf {entry : String × Payload}
    (member : entry ∈ scalarValues telemetry ++ optionalValues telemetry.pv34) :
    entry.1 ∈ scalarLeaves := by
  rcases List.mem_append.mp member with always | optional
  · have leaves : (scalarValues telemetry).map Prod.fst ⊆ scalarLeaves :=
      List.subset_append_left _ _
    exact leaves (List.mem_map_of_mem always)
  · cases strings : telemetry.pv34 with
    | none =>
      rw [strings] at optional
      cases optional
    | some pair =>
      rw [strings] at optional
      have leaves : (optionalValues (some pair)).map Prod.fst ⊆ scalarLeaves :=
        List.Subset.trans (List.subset_append_left _ _)
          (List.subset_append_right ((scalarValues telemetry).map Prod.fst) _)
      exact leaves (List.mem_map_of_mem optional)

theorem scalarMessages_topic {message : Message}
    (member : message ∈ scalarMessages config telemetry) :
    ∃ leaf ∈ scalarLeaves, message.topic = config.inverterTopic telemetry.serial leaf := by
  rw [scalarMessages] at member
  have debugLeaf : ∀ entry ∈ debugValues telemetry, entry.1 ∈ scalarLeaves := by
    intro entry isEntry
    simp only [debugValues, List.mem_cons, List.not_mem_nil, or_false] at isEntry
    rcases isEntry with rfl | rfl
    · exact (by decide : "0/sequence" ∈ scalarLeaves)
    · exact (by decide : "0/status_code" ∈ scalarLeaves)
  -- with or without debugging the leaves are the same
  split at member
  · obtain ⟨entry, isEntry, rfl⟩ := List.mem_map.mp member
    rcases List.mem_append.mp isEntry with value | debug
    · exact ⟨entry.1, scalarValues_leaf telemetry value, rfl⟩
    · exact ⟨entry.1, debugLeaf entry debug, rfl⟩
  · rcases List.mem_append.mp member with value | debug
    · obtain ⟨entry, isEntry, rfl⟩ := List.mem_map.mp value
      exact ⟨entry.1, scalarValues_leaf telemetry isEntry, rfl⟩
    · obtain ⟨entry, isEntry, rfl⟩ := List.mem_map.mp debug
      exact ⟨entry.1, debugLeaf entry isEntry, rfl⟩

end Telemetry

/-! ## Availability -/

section Availability

variable (config : MqttConfig) {telemetry : Telemetry} {message : Message} (serial : Text)

/-- A topic of an availability is none of an entity. -/
theorem discoveryMessages_notAvailability {device : DeviceInfo}
    (member : message ∈ discoveryMessages config device telemetry) :
    message.topic ≠ config.inverterTopic serial "availability" := by
  obtain ⟨component, _, other, field, topic⟩ :=
    discoveryMessages_topic config device telemetry member
  rw [topic]
  exact (config.inverterTopic_ne_entityTopic (by decide) (by decide)).symm

theorem scalarMessages_notAvailability (member : message ∈ scalarMessages config telemetry) :
    message.topic ≠ config.inverterTopic serial "availability" := by
  obtain ⟨leaf, isLeaf, topic⟩ := scalarMessages_topic config telemetry member
  have apart : ∀ leaf ∈ scalarLeaves, ¬ leaf.toList <:+ "availability".toList ∧
      ¬ "availability".toList <:+ leaf.toList := by decide
  rw [topic]
  exact ne_of_suffix (config.inverterTopic_suffix telemetry.serial leaf)
    (config.inverterTopic_suffix serial "availability") (apart leaf isLeaf).1 (apart leaf isLeaf).2

/-- Of the messages for telemetry one says that its inverter is available. -/
theorem telemetryMessages_availability :
    (telemetryMessages config telemetry).filter
        (·.topic = config.inverterTopic serial "availability") =
      if telemetry.serial = serial then [config.availability serial "online".toList] else [] := by
  have state : config.inverterTopic telemetry.serial "state" ≠
      config.inverterTopic serial "availability" :=
    ne_of_suffix (config.inverterTopic_suffix telemetry.serial "state")
      (config.inverterTopic_suffix serial "availability") (by decide) (by decide)
  have readings : (scalarMessages config telemetry).filter
      (·.topic = config.inverterTopic serial "availability") = [] := by
    rw [List.filter_eq_nil_iff]
    intro message member
    exact fun same => scalarMessages_notAvailability config serial member (of_decide_eq_true same)
  rw [telemetryMessages, List.filter_cons, if_neg fun same => state (of_decide_eq_true same),
    List.filter_cons, readings]
  by_cases same : telemetry.serial = serial
  · rw [if_pos same, same]
    exact if_pos (decide_eq_true rfl)
  · have other : (config.availability telemetry.serial "online".toList).topic ≠
        config.inverterTopic serial "availability" :=
      fun topics => same ((config.inverterTopic_inj).mp topics)
    rw [if_neg same]
    exact if_neg fun same => other (of_decide_eq_true same)

end Availability

end FoxessGateway.Mqtt
