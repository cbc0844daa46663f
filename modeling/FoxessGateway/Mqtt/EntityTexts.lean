import FoxessGateway.Mqtt.EntityConfig

/-! # Entities and their texts

The configuration of every entity is a JSON text that is read as it was meant, and its unique id
tells it from every other entity of every inverter of the gateway. -/

namespace FoxessGateway.Mqtt

open Protocol JsonText

/-! ## Unique ids -/

/-- Every field that an entity of an inverter can be for. -/
def entityFields : List String :=
  ["telemetry_connected", "running", "fault", "active_power_limit", "active_power_limit_result"] ++
    allFields.filter (· ∉ ["serial", "model", "firmware", "module", "fault_active"])

/-- The component of the entity for a field. -/
def componentOf (field : String) : String :=
  if field ∈ ["telemetry_connected", "running", "fault"] then "binary_sensor"
  else if field = "active_power_limit" then "number"
  else "sensor"

/-- No field ends in an underscore and another field. -/
theorem entityFields_apart : ∀ first ∈ entityFields, ∀ second ∈ entityFields,
    ¬ '_' :: first.toList <:+ second.toList := by
  decide +kernel

/-- **A unique id is of one inverter and one field**, whatever the serials are. -/
theorem uniqueId_inj {serial other : Text} {field otherField : String}
    (known : field ∈ entityFields) (otherKnown : otherField ∈ entityFields)
    (same : uniqueId serial field = uniqueId other otherField) :
    serial = other ∧ field = otherField := by
  unfold uniqueId at same
  generalize "foxess_".toList = start at same
  rw [List.append_assoc, List.append_assoc, List.append_cancel_left_eq] at same
  have first : '_' :: field.toList <:+ serial ++ '_' :: field.toList := List.suffix_append _ _
  have second : '_' :: otherField.toList <:+ serial ++ '_' :: field.toList := by
    rw [same]
    exact List.suffix_append _ _
  -- both fields end the one text, so the shorter one ends the longer one
  have isField : '_' :: field.toList = '_' :: otherField.toList := by
    rcases Nat.le_total ('_' :: field.toList).length ('_' :: otherField.toList).length with
      shorter | longer
    · have inside := List.suffix_of_suffix_length_le first second shorter
      exact (List.suffix_cons_iff.mp inside).resolve_right
        (entityFields_apart _ known _ otherKnown)
    · have inside := List.suffix_of_suffix_length_le second first longer
      exact ((List.suffix_cons_iff.mp inside).resolve_right
        (entityFields_apart _ otherKnown _ known)).symm
  rw [isField, List.append_cancel_right_eq] at same
  exact ⟨same, String.toList_inj.mp (List.cons.inj isField).2⟩

/-- The gateway's own entity has the unique id of no entity of an inverter. -/
theorem uniqueId_notGateway {serial : Text} {field : String} (known : field ∈ entityFields) :
    uniqueId serial field ≠ "foxess_local_gateway_connected".toList := by
  have apart : ∀ field ∈ entityFields,
      ¬ '_' :: field.toList <:+ "foxess_local_gateway_connected".toList := by decide +kernel
  intro same
  refine apart field known ?_
  rw [← same]
  exact List.suffix_append _ _

/-! ## Well-formed entities -/

/-- The topics on which an inverter's state is published. -/
def stateTopics (config : MqttConfig) (serial : Text) : List Text :=
  [config.inverterTopic serial "state", config.inverterTopic serial "availability",
    config.activePowerLimitStateTopic serial, config.activePowerLimitResultTopic serial]

/-- The entity of a field of an inverter. -/
structure Entity.WellFormed (config : DiscoveryConfig) (serial : Text) (limits : Limits)
    (entity : Entity) : Prop where
  known : entity.field ∈ entityFields
  component : entity.component = componentOf entity.field
  uniqueId : ("unique_id", .text (uniqueId serial entity.field)) ∈ entity.entries
  stateTopic : ∃ topic ∈ stateTopics config.toMqttConfig serial,
    ("state_topic", .text topic) ∈ entity.entries
  distinct : (entity.entries.map Prod.fst).Nodup
  readable : ∀ depth, ∀ entry ∈ entity.entries, Readable limits.digits (depth + 2) entry.2

section Blocks

variable {digits : Nat}

theorem toDict_readable {depth : Nat} {entries : List (String × Json)}
    (distinct : (entries.map Prod.fst).Nodup)
    (readable : ∀ entry ∈ entries, Readable digits depth entry.2) :
    Readable digits (depth + 1) (toDict entries) := by
  refine .dict ?_ fun entry member => ?_
  · have fields := distinct.map (f := String.toList) fun _ _ => String.toList_inj.mp
    rw [List.map_map] at fields ⊢
    exact fields
  · obtain ⟨source, isEntry, rfl⟩ := List.mem_map.mp member
    exact readable source isEntry

theorem text_readable (depth : Nat) (value : String) : Readable digits depth (text value) :=
  .text _ _

theorem deviceBlock_readable (depth : Nat) (device : DeviceInfo) :
    Readable digits (depth + 2) (deviceBlock device) := by
  have distinct : (textField "sw_version" device.firmware ++
      textField "hw_version" device.module).Sublist ["sw_version", "hw_version"] :=
    (textField_sublist _ _).append (textField_sublist _ _)
  refine toDict_readable ?_ ?_
  · rw [List.append_assoc, List.map_append, List.map_append, textEntry_fields, textEntry_fields]
    exact (show (["identifiers", "name", "manufacturer", "model", "serial_number", "sw_version",
      "hw_version"]).Nodup by simp).sublist ((List.Sublist.refl _).append distinct)
  · simp only [List.forall_mem_append, List.forall_mem_cons, List.not_mem_nil, false_implies,
      implies_true, and_true]
    exact ⟨⟨⟨.list (List.forall_mem_singleton.mpr (.text _ _)), .text _ _, text_readable _ _,
      .text _ _, .text _ _⟩, textEntry_readable _ _⟩, textEntry_readable _ _⟩

theorem availableOn_readable (depth : Nat) (topic : Text) :
    Readable digits (depth + 1) (availableOn topic) := by
  refine toDict_readable (show (["topic", "payload_available",
    "payload_not_available"]).Nodup by simp) ?_
  simp only [List.forall_mem_cons, List.not_mem_nil, false_implies, implies_true, and_true]
  exact ⟨.text _ _, text_readable _ _, text_readable _ _⟩

theorem availabilityBlock_readable (depth : Nat) (config : DiscoveryConfig) (serial : Text) :
    Readable digits (depth + 2) (availabilityBlock config serial) := by
  refine .list ?_
  simp only [List.forall_mem_cons, List.not_mem_nil, false_implies, implies_true, and_true]
  exact ⟨availableOn_readable _ _, availableOn_readable _ _⟩

/-- The number of seconds is no longer than the numbers that a reader takes. -/
def DiscoveryConfig.Fits (config : DiscoveryConfig) (limits : Limits) : Prop :=
  ∀ seconds ∈ config.expireAfterSeconds, (Nat.toDigits 10 seconds.natAbs).length ≤ limits.digits

theorem optional_readable {depth : Nat} (key : String) {value : Option Json}
    (readable : ∀ inner ∈ value, Readable digits depth inner) :
    ∀ entry ∈ optional key value, Readable digits depth entry.2 := by
  cases value with
  | none => exact List.forall_mem_nil _
  | some inner => exact List.forall_mem_singleton.mpr (readable inner rfl)

theorem optional_text_readable {depth : Nat} (key : String) (value : Option String) :
    ∀ entry ∈ optional key (value.map text), Readable digits depth entry.2 := by
  refine optional_readable key fun inner isInner => ?_
  obtain ⟨value, _, rfl⟩ := Option.map_eq_some_iff.mp isInner
  exact text_readable _ _

theorem expireAfter_readable {config : DiscoveryConfig} {limits : Limits}
    (fits : config.Fits limits) (depth : Nat) :
    ∀ entry ∈ expireAfter config, Readable limits.digits depth entry.2 := by
  refine optional_readable _ fun inner isInner => ?_
  obtain ⟨seconds, isSeconds, rfl⟩ := Option.map_eq_some_iff.mp isInner
  exact .int _ (fits seconds isSeconds)

theorem optional_sublist (key : String) (value : Option Json) :
    ((optional key value).map Prod.fst).Sublist [key] := by
  cases value with
  | none => exact List.nil_sublist _
  | some value => exact .refl _

end Blocks

section Entities

variable {config : DiscoveryConfig} {limits : Limits} (device : DeviceInfo)

theorem telemetryConnected_wellFormed :
    (telemetryConnected config device).WellFormed config device.serial limits where
  known := show "telemetry_connected" ∈ entityFields from List.mem_append_left _ (by simp)
  component := show "binary_sensor" = componentOf "telemetry_connected" by simp [componentOf]
  uniqueId := List.mem_of_getElem? (i := 1) rfl
  stateTopic := ⟨_, List.mem_of_getElem? (i := 1) rfl, List.mem_of_getElem? (i := 3) rfl⟩
  distinct := show (["name", "unique_id", "object_id", "state_topic", "payload_on", "payload_off",
    "device_class", "entity_category", "availability", "device"]).Nodup by simp
  readable depth := by
    simp only [telemetryConnected, identity, List.forall_mem_append, List.forall_mem_cons,
      List.not_mem_nil, false_implies, implies_true, and_true]
    exact ⟨⟨.text _ _, .text _ _, .text _ _⟩, .text _ _, text_readable _ _, text_readable _ _,
      text_readable _ _, text_readable _ _,
      .list (List.forall_mem_singleton.mpr (availableOn_readable _ _)), deviceBlock_readable _ _⟩

/-- The fields of the state object that have a sensor. -/
theorem sensorField_known {telemetry : Telemetry} {field : String}
    (inState : field ∈ stateDict config.toMqttConfig telemetry)
    (announced : field ∉ skippedFields) :
    field ∈ entityFields ∧ componentOf field = "sensor" := by
  have inDict : field ∈ asDict telemetry := by
    rw [stateDict] at inState
    split at inState
    · exact inState
    · exact (List.mem_filter.mp inState).1
  have isField := (asDict_sublist telemetry).mem inDict
  have sensors : ∀ field ∈ allFields, field ∉ skippedFields →
      field ∈ entityFields ∧ componentOf field = "sensor" := by decide +kernel
  exact sensors field isField announced

theorem diagnosticField_known : ∀ field ∈ ["last_fault_code", "last_fault_message",
    "last_fault_timestamp", "mesh_role", "mesh_peer_serial"],
    field ∈ entityFields ∧ componentOf field = "sensor" := by
  decide +kernel

theorem fieldSensor_wellFormed (fits : config.Fits limits) {field : String}
    (known : field ∈ entityFields ∧ componentOf field = "sensor") :
    (fieldSensor config device field).WellFormed config device.serial limits where
  known := known.1
  component := known.2.symm
  uniqueId := by
    simp only [fieldSensor, identity, List.mem_append, List.mem_cons, true_or, or_true]
  stateTopic := by
    refine ⟨_, List.mem_of_getElem? (i := 0) rfl, ?_⟩
    simp only [fieldSensor, stateTopic, List.mem_append, List.mem_cons, true_or, or_true]
  distinct := by
    have options : ((if field = "operating_state" then
        [("options", Json.list [text "standby", text "running", text "unknown"])] else []).map
          Prod.fst).Sublist ["options"] := by
      split
      · exact .refl _
      · exact List.nil_sublist _
    have all : (["name", "unique_id", "object_id", "state_topic", "value_template", "availability",
        "availability_mode", "device", "expire_after", "unit_of_measurement", "device_class",
        "options", "state_class"]).Nodup := by simp
    refine all.sublist ?_
    simp only [fieldSensor, identity, List.map_append]
    exact (((((List.Sublist.refl _).append (optional_sublist _ _)).append
      (optional_sublist _ _)).append (optional_sublist _ _)).append options).append
        (optional_sublist _ _)
  readable depth := by
    simp only [fieldSensor, identity, List.forall_mem_append, List.forall_mem_cons,
      List.not_mem_nil, false_implies, implies_true, and_true]
    refine ⟨⟨⟨⟨⟨⟨⟨.text _ _, .text _ _, .text _ _⟩, .text _ _, .text _ _,
      availabilityBlock_readable _ _ _, text_readable _ _, deviceBlock_readable _ _⟩,
      expireAfter_readable fits _⟩, optional_text_readable _ _⟩, optional_text_readable _ _⟩, ?_⟩,
      optional_text_readable _ _⟩
    split
    · refine List.forall_mem_singleton.mpr (.list ?_)
      simp only [List.forall_mem_cons, List.not_mem_nil, false_implies, implies_true, and_true]
      exact ⟨text_readable _ _, text_readable _ _, text_readable _ _⟩
    · exact List.forall_mem_nil _

theorem running_wellFormed (fits : config.Fits limits) :
    (running config device).WellFormed config device.serial limits where
  known := show "running" ∈ entityFields from List.mem_append_left _ (by simp)
  component := show "binary_sensor" = componentOf "running" by simp [componentOf]
  uniqueId := List.mem_of_getElem? (i := 1) rfl
  stateTopic := ⟨_, List.mem_of_getElem? (i := 0) rfl, List.mem_of_getElem? (i := 3) rfl⟩
  distinct := by
    have all : (["name", "unique_id", "object_id", "state_topic", "value_template", "payload_on",
        "payload_off", "availability", "availability_mode", "device_class", "device",
        "expire_after"]).Nodup := by simp
    refine all.sublist ?_
    simp only [running, identity, List.map_append]
    exact (List.Sublist.refl _).append (optional_sublist _ _)
  readable depth := by
    simp only [running, identity, List.forall_mem_append, List.forall_mem_cons, List.not_mem_nil,
      false_implies, implies_true, and_true]
    exact ⟨⟨⟨.text _ _, .text _ _, .text _ _⟩, .text _ _, .text _ _, text_readable _ _,
      text_readable _ _, availabilityBlock_readable _ _ _, text_readable _ _, text_readable _ _,
      deviceBlock_readable _ _⟩, expireAfter_readable fits _⟩

theorem fault_wellFormed (fits : config.Fits limits) :
    (fault config device).WellFormed config device.serial limits where
  known := show "fault" ∈ entityFields from List.mem_append_left _ (by simp)
  component := show "binary_sensor" = componentOf "fault" by simp [componentOf]
  uniqueId := List.mem_of_getElem? (i := 1) rfl
  stateTopic := ⟨_, List.mem_of_getElem? (i := 0) rfl, List.mem_of_getElem? (i := 3) rfl⟩
  distinct := by
    have all : (["name", "unique_id", "object_id", "state_topic", "value_template", "payload_on",
        "payload_off", "availability", "availability_mode", "device_class", "entity_category",
        "device", "expire_after"]).Nodup := by simp
    refine all.sublist ?_
    simp only [fault, identity, List.map_append]
    exact (List.Sublist.refl _).append (optional_sublist _ _)
  readable depth := by
    simp only [fault, identity, List.forall_mem_append, List.forall_mem_cons, List.not_mem_nil,
      false_implies, implies_true, and_true]
    exact ⟨⟨⟨.text _ _, .text _ _, .text _ _⟩, .text _ _, .text _ _, text_readable _ _,
      text_readable _ _, availabilityBlock_readable _ _ _, text_readable _ _, text_readable _ _,
      text_readable _ _, deviceBlock_readable _ _⟩, expireAfter_readable fits _⟩

/-- A sensor of the last fault or of the mesh; it may have a device class. -/
theorem diagnosticSensor_wellFormed (name : String) {field : String} (valueTemplate : Text)
    (known : field ∈ entityFields ∧ componentOf field = "sensor") (deviceClass : Option String) :
    (diagnosticSensor config device name field valueTemplate
      (optional "device_class" (deviceClass.map text))).WellFormed config device.serial limits where
  known := known.1
  component := known.2.symm
  uniqueId := List.mem_append_left _ (List.mem_append_left _ (List.mem_of_getElem? (i := 1) rfl))
  stateTopic := ⟨_, List.mem_of_getElem? (i := 0) rfl,
    List.mem_append_right _ (List.mem_of_getElem? (i := 0) rfl)⟩
  distinct := by
    have all : (["name", "unique_id", "object_id", "value_template", "device_class", "state_topic",
        "availability", "availability_mode", "entity_category", "device"]).Nodup := by simp
    refine all.sublist ?_
    simp only [diagnosticSensor, identity, List.map_append]
    exact ((List.Sublist.refl _).append (optional_sublist _ _)).append (.refl _)
  readable depth := by
    simp only [diagnosticSensor, identity, List.forall_mem_append, List.forall_mem_cons,
      List.not_mem_nil, false_implies, implies_true, and_true]
    exact ⟨⟨⟨⟨.text _ _, .text _ _, .text _ _⟩, .text _ _⟩, optional_text_readable _ _⟩,
      .text _ _, availabilityBlock_readable _ _ _, text_readable _ _, text_readable _ _,
      deviceBlock_readable _ _⟩

theorem activePowerLimit_wellFormed (wide : 3 ≤ limits.digits) :
    ∀ entity ∈ activePowerLimit config device,
      entity.WellFormed config device.serial limits := by
  refine List.forall_mem_cons.mpr ⟨?_, List.forall_mem_singleton.mpr ?_⟩
  · exact {
      known := show "active_power_limit" ∈ entityFields from List.mem_append_left _ (by simp)
      component := show "number" = componentOf "active_power_limit" by simp [componentOf]
      uniqueId := List.mem_of_getElem? (i := 1) rfl
      stateTopic := ⟨_, List.mem_of_getElem? (i := 2) rfl, List.mem_of_getElem? (i := 4) rfl⟩
      distinct := show (["name", "unique_id", "object_id", "command_topic", "state_topic", "min",
        "max", "step", "mode", "unit_of_measurement", "entity_category", "availability",
        "availability_mode", "device"]).Nodup by simp
      readable := fun depth => by
        simp only [identity, List.forall_mem_append, List.forall_mem_cons, List.not_mem_nil,
          false_implies, implies_true, and_true]
        exact ⟨⟨.text _ _, .text _ _, .text _ _⟩, .text _ _, .text _ _,
          .small 2 (by decide) wide, .small 2 (by decide) wide, .small 2 (by decide) wide,
          text_readable _ _, text_readable _ _, text_readable _ _,
          availabilityBlock_readable _ _ _, text_readable _ _, deviceBlock_readable _ _⟩ }
  · exact {
      known := show "active_power_limit_result" ∈ entityFields from List.mem_append_left _ (by simp)
      component := show "sensor" = componentOf "active_power_limit_result" by simp [componentOf]
      uniqueId := List.mem_of_getElem? (i := 1) rfl
      stateTopic := ⟨_, List.mem_of_getElem? (i := 3) rfl, List.mem_of_getElem? (i := 3) rfl⟩
      distinct := show (["name", "unique_id", "object_id", "state_topic", "entity_category",
        "availability", "availability_mode", "device"]).Nodup by simp
      readable := fun depth => by
        simp only [identity, List.forall_mem_append, List.forall_mem_cons, List.not_mem_nil,
          false_implies, implies_true, and_true]
        exact ⟨⟨.text _ _, .text _ _, .text _ _⟩, .text _ _, text_readable _ _,
          availabilityBlock_readable _ _ _, text_readable _ _, deviceBlock_readable _ _⟩ }

/-- Every entity of an announcement is well formed. -/
theorem discoveryEntities_wellFormed (fits : config.Fits limits) (telemetry : Telemetry) :
    ∀ entity ∈ discoveryEntities config device telemetry,
      entity.WellFormed config device.serial limits := by
  have diagnostic : ∀ {name field valueTemplate}, field ∈ entityFields ∧
      componentOf field = "sensor" → (diagnosticSensor config device name field valueTemplate
        []).WellFormed config device.serial limits :=
    fun known => diagnosticSensor_wellFormed device _ _ known none
  rw [discoveryEntities]
  simp only [List.cons_append, List.forall_mem_cons, List.forall_mem_append, List.forall_mem_map]
  refine ⟨telemetryConnected_wellFormed device, ⟨?_, running_wellFormed device fits, ?_⟩, ?_⟩
  · intro field member
    obtain ⟨inState, announced⟩ := List.mem_filter.mp member
    exact fieldSensor_wellFormed device fits
      (sensorField_known inState (of_decide_eq_true announced))
  · split
    · simp only [lastFault, List.forall_mem_cons, List.not_mem_nil, false_implies, implies_true,
        and_true]
      exact ⟨fault_wellFormed device fits,
        diagnostic (diagnosticField_known "last_fault_code" (by simp)),
        diagnostic (diagnosticField_known "last_fault_message" (by simp)),
        diagnosticSensor_wellFormed device _ _
          (diagnosticField_known "last_fault_timestamp" (by simp)) (some "timestamp")⟩
    · exact List.forall_mem_nil _
  · simp only [mesh, List.forall_mem_cons, List.not_mem_nil, false_implies, implies_true, and_true]
    exact ⟨diagnostic (diagnosticField_known "mesh_role" (by simp)),
      diagnostic (diagnosticField_known "mesh_peer_serial" (by simp))⟩

end Entities

/-! ## What is announced -/

/-- The message that brings the configuration of an entity. -/
def Entity.message (config : DiscoveryConfig) (device : DeviceInfo) (entity : Entity) : Message :=
  config.configure entity.component device entity.field

/-- The entities that the gateway announces for an inverter. -/
def announcedEntities (config : DiscoveryConfig) (device : DeviceInfo) (telemetry : Telemetry) :
    List Entity :=
  discoveryEntities config device telemetry ++ activePowerLimit config device

def Message.isConfiguration (message : Message) : Bool := message.payload ≠ .empty

section Messages

variable (config : DiscoveryConfig) (device : DeviceInfo)

theorem configure_isConfiguration (component field : String) :
    (config.configure component device field).isConfiguration = true := rfl

theorem unconfigure_isConfiguration (component field : String) (serial : Text) :
    (config.unconfigure component serial field).isConfiguration = false := rfl

/-- The messages that configure something are those of the entities. -/
theorem discoveryMessages_entities (telemetry : Telemetry) :
    (discoveryMessages config.toMqttConfig device telemetry).filter Message.isConfiguration =
      (discoveryEntities config device telemetry).map (Entity.message config device) := by
  have debug : ((if config.debug then [] else
      clearDebugDiscovery config.toMqttConfig telemetry).filter Message.isConfiguration) = [] := by
    split
    · rfl
    · rw [clearDebugDiscovery, List.filter_eq_nil_iff]
      intro message member
      obtain ⟨field, _, rfl⟩ := List.mem_map.mp member
      rw [unconfigure_isConfiguration]
      exact Bool.false_ne_true
  have sensors : (((stateDict config.toMqttConfig telemetry).filter (· ∉ skippedFields)).map
      (config.configure "sensor" device)).filter Message.isConfiguration =
        (((stateDict config.toMqttConfig telemetry).filter (· ∉ skippedFields)).map
          (fieldSensor config device)).map (Entity.message config device) := by
    rw [List.filter_eq_self.mpr, List.map_map]
    · rfl
    · intro message member
      obtain ⟨field, _, rfl⟩ := List.mem_map.mp member
      exact configure_isConfiguration _ _ _ _
  have faults : (if supportsAcFaultHistory device.model then
      faultDiscovery config.toMqttConfig device
        else clearFaultDiscovery config.toMqttConfig telemetry.serial).filter
          Message.isConfiguration =
      (if supportsAcFaultHistory device.model then fault config device :: lastFault config device
        else []).map (Entity.message config device) := by
    split <;> rfl
  have mesh : (meshDiscovery config.toMqttConfig device).filter Message.isConfiguration =
      (mesh config device).map (Entity.message config device) := rfl
  have legacy : (clearLegacyDiscovery config.toMqttConfig telemetry.serial).filter
      Message.isConfiguration = [] := rfl
  rw [discoveryMessages, discoveryEntities, List.filter_append, List.filter_append,
    List.filter_append, List.filter_append, List.filter_append, List.filter_append, debug, sensors,
    faults, mesh, legacy, List.append_nil, List.append_nil, List.map_append, List.map_append,
    List.map_cons, List.map_cons, List.append_cons]
  rfl

end Messages

theorem Entity.WellFormed.read {config : DiscoveryConfig} {serial : Text} {limits : Limits}
    {entity : Entity} (wellFormed : entity.WellFormed config serial limits)
    (deep : 3 ≤ limits.depth) : loads limits entity.text = .ok (toDict entity.entries) := by
  obtain ⟨depth, isDepth⟩ : ∃ depth, limits.depth = depth + 2 + 1 := ⟨limits.depth - 3, by omega⟩
  have readable : Readable limits.digits limits.depth (toDict entity.entries) := by
    rw [isDepth]
    exact toDict_readable wellFormed.distinct (wellFormed.readable depth)
  have read := loads_dumps readable .compact false (List.forall_mem_nil _)
  rwa [List.append_nil] at read

theorem gatewayEntries_distinct (config : DiscoveryConfig) :
    ((gatewayEntries config).map Prod.fst).Nodup :=
  show (["name", "unique_id", "object_id", "state_topic", "payload_on", "payload_off",
    "device_class", "entity_category", "device"]).Nodup by simp

theorem mem_unique {entries : List (String × Json)} (distinct : (entries.map Prod.fst).Nodup)
    {key : String} {first second : Json} (isFirst : (key, first) ∈ entries)
    (isSecond : (key, second) ∈ entries) : first = second := by
  have same := List.inj_on_of_nodup_map distinct isFirst isSecond rfl
  exact (Prod.mk.inj same).2

/-- **Every announcement is read, and means one entity.**  The messages by which the gateway
configures the entities of an inverter are those of the entities, and each text is read as the
object that was meant, with each key once and with a topic on which the inverter's state is
published.  Whatever the serials are, two configurations with one unique id are on one topic, and
none has that of the gateway's own entity. -/
theorem announcement_read {config : DiscoveryConfig} {limits : Limits} (fits : config.Fits limits)
    (deep : 3 ≤ limits.depth) (wide : 3 ≤ limits.digits) (device : DeviceInfo)
    (telemetry : Telemetry) :
    (discoveryMessages config.toMqttConfig device telemetry ++
        activePowerLimitEntities config.toMqttConfig device).filter Message.isConfiguration =
      (announcedEntities config device telemetry).map (Entity.message config device) ∧
    ∀ entity ∈ announcedEntities config device telemetry,
      loads limits entity.text = .ok (toDict entity.entries) ∧
      (entity.entries.map Prod.fst).Nodup ∧
      (∃ topic ∈ stateTopics config.toMqttConfig device.serial,
        ("state_topic", .text topic) ∈ entity.entries) ∧
      ∃ id, ("unique_id", id) ∈ entity.entries ∧ ("unique_id", id) ∉ gatewayEntries config ∧
        ∀ other otherTelemetry, ∀ otherEntity ∈ announcedEntities config other otherTelemetry,
          ("unique_id", id) ∈ otherEntity.entries →
            (otherEntity.message config other).topic = (entity.message config device).topic := by
  have wellFormed : ∀ device telemetry, ∀ entity ∈ announcedEntities config device telemetry,
      entity.WellFormed config device.serial limits := fun device telemetry =>
    List.forall_mem_append.mpr ⟨discoveryEntities_wellFormed device fits telemetry,
      activePowerLimit_wellFormed device wide⟩
  constructor
  · rw [announcedEntities, List.filter_append, List.map_append, discoveryMessages_entities]
    rfl
  intro entity member
  have isEntity := wellFormed device telemetry entity member
  refine ⟨isEntity.read deep, isEntity.distinct, isEntity.stateTopic, _, isEntity.uniqueId, ?_, ?_⟩
  · intro isGateway
    have isId : uniqueId device.serial entity.field = "foxess_local_gateway_connected".toList :=
      Json.text.inj (mem_unique (gatewayEntries_distinct config) isGateway
        (List.mem_of_getElem? (i := 1) rfl))
    exact uniqueId_notGateway isEntity.known isId
  · intro other otherTelemetry otherEntity otherMember sameId
    have isOther := wellFormed other otherTelemetry otherEntity otherMember
    obtain ⟨sameSerial, sameField⟩ := uniqueId_inj isOther.known isEntity.known
      (Json.text.inj (mem_unique isOther.distinct isOther.uniqueId sameId))
    rw [Entity.message, Entity.message, isOther.component, isEntity.component, sameField]
    exact congrArg (config.entityTopic _ · _) sameSerial

def expiringConfig : DiscoveryConfig where
  host := ['h']
  topicPrefix := ['f']
  discoveryPrefix := ['d']
  retain := true
  debug := false
  expireAfterSeconds := some 300

def voltageDevice (letter : Char) : DeviceInfo := ⟨[letter], [letter], "M1".toList, [], []⟩

/-- The announcement of an inverter A, beside one of an inverter B. -/
theorem announcement_read_voltage : ∃ telemetry,
    decodeTelemetry voltagePayload ⟨['A'], "M1".toList, [], [], [], none, [], []⟩ = .ok telemetry ∧
      (discoveryMessages expiringConfig.toMqttConfig (voltageDevice 'A') telemetry ++
          activePowerLimitEntities expiringConfig.toMqttConfig (voltageDevice 'A')).filter
        Message.isConfiguration =
      (announcedEntities expiringConfig (voltageDevice 'A') telemetry).map
        (Entity.message expiringConfig (voltageDevice 'A')) ∧
      ∀ entity ∈ announcedEntities expiringConfig (voltageDevice 'A') telemetry,
        loads ⟨990, 4300⟩ entity.text = .ok (toDict entity.entries) ∧
        (entity.entries.map Prod.fst).Nodup ∧
        (∃ topic ∈ stateTopics expiringConfig.toMqttConfig ['A'],
          ("state_topic", .text topic) ∈ entity.entries) ∧
        ∃ id, ("unique_id", id) ∈ entity.entries ∧
          ("unique_id", id) ∉ gatewayEntries expiringConfig ∧
          ∀ otherEntity ∈ announcedEntities expiringConfig (voltageDevice 'B') telemetry,
            ("unique_id", id) ∈ otherEntity.entries →
              (otherEntity.message expiringConfig (voltageDevice 'B')).topic =
                (entity.message expiringConfig (voltageDevice 'A')).topic := by
  obtain ⟨telemetry, decoded⟩ := decodeTelemetry_ok ⟨['A'], "M1".toList, [], [], [], none, [], []⟩
    (show voltagePayload.length = 238 by decide +kernel)
  have fits : expiringConfig.Fits ⟨990, 4300⟩ := by
    intro seconds isSeconds
    cases isSeconds
    decide
  have deep : 3 ≤ (⟨990, 4300⟩ : Limits).depth := by decide
  have wide : 3 ≤ (⟨990, 4300⟩ : Limits).digits := by decide
  obtain ⟨messages, entities⟩ := announcement_read fits deep wide (voltageDevice 'A') telemetry
  refine ⟨telemetry, decoded, messages, fun entity member => ?_⟩
  obtain ⟨read, distinct, stateTopic, id, isId, notGateway, apart⟩ := entities entity member
  exact ⟨read, distinct, stateTopic, id, isId, notGateway, apart (voltageDevice 'B') telemetry⟩

end FoxessGateway.Mqtt
