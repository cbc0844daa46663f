import FoxessGateway.Library.Json.Decimals
import FoxessGateway.Library.Json.Documents
import FoxessGateway.Mqtt.Messages
import FoxessGateway.Protocol.FaultCodes

/-! # The state object

The JSON text on the state topic and the texts on the topics of single values, and what a reader
of either learns about the payload of the inverter. -/

namespace FoxessGateway.Mqtt

open Protocol JsonText

/-! ## Values -/

/-- `word / divisor` is exact in a float, `round` is to the nearest decimal, and so few digits are
printed as they are. -/
def readingNumeral (reading : Reading) : Numeral :=
  roundedNumeral reading.word reading.divisor reading.digits

def readingValue (reading : Reading) : Json := .real (readingNumeral reading)

/-- A field that is in `as_dict` where its text is not empty. -/
def textEntry (field : String) (text : Text) : List (String × Json) :=
  if text = [] then [] else [(field, .text text)]

def stringEntries : Option (PvString × PvString) → List (String × Json)
  | some (pv3, pv4) =>
    [("pv3_power_w", .int pv3.powerW), ("pv3_voltage_v", readingValue pv3.voltageV),
      ("pv3_current_a", readingValue pv3.currentA), ("pv4_power_w", .int pv4.powerW),
      ("pv4_voltage_v", readingValue pv4.voltageV), ("pv4_current_a", readingValue pv4.currentA)]
  | none => []

/-- `raw_u16_` and the offset in three digits. -/
def rawField (offset : Nat) : String :=
  let digits := decimal offset
  "raw_u16_" ++ String.ofList (List.replicate (3 - digits.length) '0' ++ digits)

/-- The fields that every inverter has, but for the words as they are. -/
def readingEntries (telemetry : Telemetry) : List (String × Json) :=
  [("r_power_w", .int telemetry.rPowerW), ("export_power_w", .int telemetry.exportPowerW),
    ("r_voltage_v", readingValue telemetry.rVoltageV),
    ("r_current_a", readingValue telemetry.rCurrentA),
    ("r_frequency_hz", readingValue telemetry.rFrequencyHz),
    ("pv_power_w", .int telemetry.pvPowerW), ("pv1_power_w", .int telemetry.pv1.powerW),
    ("pv1_voltage_v", readingValue telemetry.pv1.voltageV),
    ("pv1_current_a", readingValue telemetry.pv1.currentA),
    ("pv2_power_w", .int telemetry.pv2.powerW),
    ("pv2_voltage_v", readingValue telemetry.pv2.voltageV),
    ("pv2_current_a", readingValue telemetry.pv2.currentA),
    ("inverter_temperature_c", readingValue telemetry.inverterTemperatureC),
    ("generation_kwh", readingValue telemetry.generationKwh),
    ("export_total_kwh", readingValue telemetry.exportTotalKwh),
    ("fault_active", .bool telemetry.faultActive),
    ("operating_state", .text (operatingStateText telemetry.operatingState)),
    ("operating_state_code", .int telemetry.operatingStateCode),
    ("sequence", .int telemetry.sequence)]

/-- `as_dict`, in the order of the fields of the class; `iso8601` is `_iso8601`. -/
def asDictEntries (iso8601 : Nat → Text) (telemetry : Telemetry) : List (String × Json) :=
  textEntry "serial" telemetry.serial ++ readingEntries telemetry ++
    telemetry.rawWords.map (fun (offset, word) => (rawField offset, .int word)) ++
    textEntry "model" telemetry.model ++ textEntry "firmware" telemetry.firmware ++
    textEntry "module" telemetry.module ++ textEntry "last_fault_code" telemetry.lastFaultCode ++
    textEntry "last_fault_message" telemetry.lastFaultMessage ++
    (match telemetry.lastFaultTimestamp with
      | some time => [("last_fault_timestamp", .text (iso8601 time))]
      | none => []) ++
    textEntry "mesh_role" telemetry.meshRole ++
    textEntry "mesh_peer_serial" telemetry.meshPeerSerial ++ stringEntries telemetry.pv34

/-- `_state_dict` -/
def stateEntries (iso8601 : Nat → Text) (config : MqttConfig) (telemetry : Telemetry) :
    List (String × Json) :=
  if config.debug then asDictEntries iso8601 telemetry
  else (asDictEntries iso8601 telemetry).filter fun entry => !isDebugField entry.1

def toDict (entries : List (String × Json)) : Json :=
  .dict (entries.map fun (field, value) => (field.toList, value))

/-- `json.dumps(self._state_dict(telemetry), separators=(",", ":"))` -/
def stateText (iso8601 : Nat → Text) (config : MqttConfig) (telemetry : Telemetry) : Text :=
  dumps .compact false (toDict (stateEntries iso8601 config telemetry))

/-- `str(value)` of the payloads that are no JSON texts. -/
def scalarText : Payload → Option Text
  | .empty => some []
  | .text value => some value
  | .number value => some (writeInt value)
  | .reading reading => some (writeNumeral (readingNumeral reading))
  | _ => none

/-- `str(value)` of a value of the state object. -/
def valueText : Json → Option Text
  | .int value => some (writeInt value)
  | .real numeral => some (writeNumeral numeral)
  | .text value => some value
  | _ => none

/-! ## Names -/

section Names

variable (iso8601 : Nat → Text) (config : MqttConfig) {telemetry : Telemetry}

theorem textEntry_fields (field : String) (text : Text) :
    (textEntry field text).map Prod.fst = textField field text := by
  rw [textEntry, textField]
  split <;> rfl

theorem stringEntries_fields (strings : Option (PvString × PvString)) :
    (stringEntries strings).map Prod.fst = stringFields strings := by
  cases strings <;> rfl

/-- The offsets of the words that `Telemetry` has as they are. -/
def rawOffsets : List Nat := [0, 2, 96, 98, 100, 102, 104, 106, 154, 156]

theorem asDictEntries_fields (offsets : telemetry.rawWords.map Prod.fst = rawOffsets) :
    (asDictEntries iso8601 telemetry).map Prod.fst = asDict telemetry := by
  have raw : (telemetry.rawWords.map fun (offset, word) => (rawField offset, Json.int word)).map
      Prod.fst = ["raw_u16_000", "raw_u16_002", "raw_u16_096", "raw_u16_098", "raw_u16_100",
        "raw_u16_102", "raw_u16_104", "raw_u16_106", "raw_u16_154", "raw_u16_156"] := by
    have named : rawOffsets.map rawField = ["raw_u16_000", "raw_u16_002", "raw_u16_096",
        "raw_u16_098", "raw_u16_100", "raw_u16_102", "raw_u16_104", "raw_u16_106", "raw_u16_154",
        "raw_u16_156"] := by decide +kernel
    rw [← named, ← offsets, List.map_map, List.map_map]
    rfl
  simp only [asDictEntries, readingEntries, asDict, List.map_append, raw, textEntry_fields,
    stringEntries_fields]
  cases telemetry.lastFaultTimestamp <;>
    simp only [List.map_cons, List.map_nil, List.cons_append, List.nil_append, List.append_assoc,
      Option.isSome_some, Option.isSome_none, Bool.false_eq_true, if_true, if_false]

theorem stateEntries_fields (offsets : telemetry.rawWords.map Prod.fst = rawOffsets) :
    (stateEntries iso8601 config telemetry).map Prod.fst = stateDict config telemetry := by
  rw [stateEntries, stateDict, ← asDictEntries_fields iso8601 offsets]
  split
  · rfl
  · rw [List.filter_map]
    rfl

end Names

/-! ## Reading it -/

/-- Every field that a state object can have. -/
def allFields : List String :=
  ["serial", "r_power_w", "export_power_w", "r_voltage_v", "r_current_a", "r_frequency_hz",
    "pv_power_w", "pv1_power_w", "pv1_voltage_v", "pv1_current_a", "pv2_power_w", "pv2_voltage_v",
    "pv2_current_a", "inverter_temperature_c", "generation_kwh", "export_total_kwh",
    "fault_active", "operating_state", "operating_state_code", "sequence", "raw_u16_000",
    "raw_u16_002", "raw_u16_096", "raw_u16_098", "raw_u16_100", "raw_u16_102", "raw_u16_104",
    "raw_u16_106", "raw_u16_154", "raw_u16_156", "model", "firmware", "module", "last_fault_code",
    "last_fault_message", "last_fault_timestamp", "mesh_role", "mesh_peer_serial", "pv3_power_w",
    "pv3_voltage_v", "pv3_current_a", "pv4_power_w", "pv4_voltage_v", "pv4_current_a"]

theorem textField_sublist (field : String) (text : Text) :
    (textField field text).Sublist [field] := by
  rw [textField]
  split
  · exact List.nil_sublist _
  · exact .refl _

theorem asDict_sublist (telemetry : Telemetry) : (asDict telemetry).Sublist allFields := by
  have timestamp : (if telemetry.lastFaultTimestamp.isSome then ["last_fault_timestamp"]
      else []).Sublist ["last_fault_timestamp"] := by
    split
    · exact .refl _
    · exact List.nil_sublist _
  have strings : (stringFields telemetry.pv34).Sublist ["pv3_power_w", "pv3_voltage_v",
      "pv3_current_a", "pv4_power_w", "pv4_voltage_v", "pv4_current_a"] := by
    cases telemetry.pv34 with
    | none => exact List.nil_sublist _
    | some => exact .refl _
  have text := fun field value => textField_sublist field value
  exact ((((((((((text _ _).append (.refl _)).append (text _ _)).append (text _ _)).append
    (text _ _)).append (text _ _)).append (text _ _)).append timestamp).append (text _ _)).append
    (text _ _)).append strings

theorem stateDict_nodup (config : MqttConfig) (telemetry : Telemetry) :
    (stateDict config telemetry).Nodup := by
  have all : (asDict telemetry).Nodup :=
    (show allFields.Nodup by decide +kernel).sublist (asDict_sublist telemetry)
  rw [stateDict]
  split
  · exact all
  · exact all.filter _

section Reading

variable {digits depth : Nat}

theorem textEntry_readable (field : String) (text : Text) :
    ∀ entry ∈ textEntry field text, Readable digits depth entry.2 := by
  rw [textEntry]
  split
  · exact List.forall_mem_nil _
  · exact List.forall_mem_singleton.mpr (.text _ _)

theorem s16_small (payload : Bytes) (offset : Nat) : (s16 payload offset).natAbs ≤ 0x8000 := by
  have bound := u16_lt payload offset
  rw [s16]
  split <;> omega

theorem includedStrings_cases (payload : Bytes) (model : Text) :
    includedStrings payload model = none ∨
      includedStrings payload model = some (pvString payload 48, pvString payload 54) := by
  rw [includedStrings]
  by_cases included : supportsFourPv model ∨ u16 payload 156 ≥ 4 ∨
      (pvString payload 48).isActive ∨ (pvString payload 54).isActive
  · exact .inr (if_pos included)
  · exact .inl (if_neg included)

theorem pvString_small (payload : Bytes) (offset : Nat) :
    (pvString payload offset).powerW < 2 ^ 16 := u16_lt payload (offset + 4)

theorem stringEntries_readable (payload : Bytes) (model : Text) (wide : 6 ≤ digits) :
    ∀ entry ∈ stringEntries (includedStrings payload model), Readable digits depth entry.2 := by
  have power : ∀ offset, Readable digits depth (.int (pvString payload offset).powerW) := by
    intro offset
    have small := pvString_small payload offset
    exact .small 5 (by omega) wide
  obtain nothing | included := includedStrings_cases payload model
  · rw [nothing]
    exact List.forall_mem_nil _
  · rw [included]
    simp only [stringEntries, List.forall_mem_cons, List.not_mem_nil, false_implies, implies_true,
      and_true]
    exact ⟨power _, .real _ _, .real _ _, power _, .real _ _, .real _ _⟩

/-- The power of the further strings of panels. -/
def furtherPower : Option (PvString × PvString) → Nat
  | some (pv3, pv4) => pv3.powerW + pv4.powerW
  | none => 0

theorem furtherPower_small (payload : Bytes) (model : Text) :
    furtherPower (includedStrings payload model) < 2 ^ 17 := by
  have third := pvString_small payload 48
  have fourth := pvString_small payload 54
  obtain nothing | included := includedStrings_cases payload model
  · rw [nothing]
    decide
  · rw [included, furtherPower]
    omega

theorem asDictEntries_readable (iso8601 : Nat → Text) {payload : Bytes} {source : TelemetrySource}
    {telemetry : Telemetry} (decoded : decodeTelemetry payload source = .ok telemetry)
    (wide : 6 ≤ digits) :
    ∀ entry ∈ asDictEntries iso8601 telemetry, Readable digits depth entry.2 := by
  have word := u16_lt payload
  have unsigned : ∀ offset, Readable digits depth (.int (u16 payload offset)) := by
    intro offset
    have small := word offset
    exact .small 5 (by omega) wide
  have signed : Readable digits depth (.int (s16 payload 6)) ∧
      Readable digits depth (.int (-s16 payload 2)) := by
    have first := s16_small payload 6
    have second := s16_small payload 2
    exact ⟨.small 5 (by omega) wide, .small 5 (by omega) wide⟩
  have power : Readable digits depth (.int ((pvString payload 36).powerW +
      (pvString payload 42).powerW +
        furtherPower (includedStrings payload source.model) : Nat)) := by
    have first := pvString_small payload 36
    have second := pvString_small payload 42
    have further := furtherPower_small payload source.model
    exact .small 5 (by omega) wide
  rw [decodeTelemetry] at decoded
  split at decoded
  · cases decoded
  cases decoded
  have texts : ∀ field text, ∀ entry ∈ textEntry field text, Readable digits depth entry.2 :=
    textEntry_readable
  simp only [asDictEntries, readingEntries, List.forall_mem_append, List.forall_mem_cons,
    List.not_mem_nil, false_implies, implies_true, and_true]
  refine ⟨⟨⟨⟨⟨⟨⟨⟨⟨⟨⟨texts _ _, ?_⟩, ?_⟩, texts _ _⟩, texts _ _⟩, texts _ _⟩, texts _ _⟩, texts _ _⟩,
    ?_⟩, texts _ _⟩, texts _ _⟩, stringEntries_readable payload _ wide⟩
  · exact ⟨signed.1, signed.2, .real _ _, .real _ _, .real _ _, power, unsigned _, .real _ _,
      .real _ _, unsigned _, .real _ _, .real _ _, .real _ _, .real _ _, .real _ _, .bool _ _,
      .text _ _, unsigned _, unsigned _⟩
  · intro entry member
    simp only [List.map_map, List.mem_map] at member
    obtain ⟨offset, _, rfl⟩ := member
    exact unsigned offset
  · cases source.lastFaultTimestamp with
    | none => exact List.forall_mem_nil _
    | some time => exact List.forall_mem_singleton.mpr (.text _ _)

end Reading

/-! ## What a reader learns -/

/-- Where the payload has the measurements: the word, what it is divided by, and the decimals. -/
def measurements (payload : Bytes) : List (String × Reading) :=
  [("r_voltage_v", ⟨u16 payload 12, 32, 3⟩), ("r_current_a", ⟨u16 payload 14, 512, 3⟩),
    ("r_frequency_hz", ⟨u16 payload 16, 128, 3⟩), ("pv1_voltage_v", ⟨u16 payload 36, 256, 3⟩),
    ("pv1_current_a", ⟨u16 payload 38, 512, 3⟩), ("pv2_voltage_v", ⟨u16 payload 42, 256, 3⟩),
    ("pv2_current_a", ⟨u16 payload 44, 512, 3⟩),
    ("inverter_temperature_c", ⟨u16 payload 62, 32, 2⟩),
    ("generation_kwh", ⟨u32WordSwapped payload 70, 128, 3⟩),
    ("export_total_kwh", ⟨u32WordSwapped payload 74, 128, 3⟩)]

/-- The measurements of the further strings of panels. -/
def furtherMeasurements (payload : Bytes) : List (String × Reading) :=
  [("pv3_voltage_v", ⟨u16 payload 48, 256, 3⟩), ("pv3_current_a", ⟨u16 payload 50, 512, 3⟩),
    ("pv4_voltage_v", ⟨u16 payload 54, 256, 3⟩), ("pv4_current_a", ⟨u16 payload 56, 512, 3⟩)]

/-- The measurements that a payload has for these strings of panels. -/
def allMeasurements (payload : Bytes) (strings : Option (PvString × PvString)) :
    List (String × Reading) :=
  measurements payload ++ if strings.isSome then furtherMeasurements payload else []

/-- The powers of the further strings of panels. -/
def furtherNumbers (payload : Bytes) : List (String × Int) :=
  [("pv3_power_w", u16 payload 52), ("pv4_power_w", u16 payload 58)]

/-- Where the payload has the whole numbers, in the order of the fields of the class.  The power of
the panels is the sum of the powers of their strings. -/
def wholeNumbers (payload : Bytes) (strings : Option (PvString × PvString)) :
    List (String × Int) :=
  let further := if strings.isSome then furtherNumbers payload else []
  [("r_power_w", s16 payload 6), ("export_power_w", -s16 payload 2),
    ("pv_power_w", u16 payload 40 + u16 payload 46 + (further.map Prod.snd).sum),
    ("pv1_power_w", u16 payload 40), ("pv2_power_w", u16 payload 46),
    ("operating_state_code", u16 payload 154), ("sequence", u16 payload 66)] ++
    rawOffsets.map (fun offset => (rawField offset, (u16 payload offset : Int))) ++ further

/-- The value is within half of its last decimal of the word divided. -/
def Measures (numeral : Numeral) (reading : Reading) : Prop :=
  |numeral.value - reading.word / reading.divisor| ≤ 1 / (2 * 10 ^ reading.digits)

theorem readingNumeral_measures {reading : Reading} (positive : 0 < reading.divisor) :
    Measures (readingNumeral reading) reading :=
  roundedNumeral_near reading.word reading.digits positive

/-- The values of one kind, each with its field. -/
def picked {β : Type} (pick : Json → Option β) (entries : List (String × Json)) :
    List (String × β) :=
  entries.filterMap fun entry => (pick entry.2).map fun value => (entry.1, value)

def numberOf : Json → Option Int
  | .int value => some value
  | _ => none

def numeralOf : Json → Option Numeral
  | .real numeral => some numeral
  | _ => none

section Picked

variable {β : Type} (pick : Json → Option β)

theorem picked_append (first second : List (String × Json)) :
    picked pick (first ++ second) = picked pick first ++ picked pick second :=
  List.filterMap_append

theorem picked_filter (shown : String → Bool) (entries : List (String × Json)) :
    picked pick (entries.filter fun entry => shown entry.1) =
      (picked pick entries).filter fun entry => shown entry.1 := by
  rw [picked, picked, List.filterMap_filter, List.filter_filterMap]
  -- either is decided at one entry, by its name and by the kind of its value
  refine List.filterMap_congr fun entry _ => ?_
  cases pick entry.2 with
  | none => exact ite_self none
  | some value =>
    cases isShown : shown entry.1 <;> simp [Option.filter, isShown]

variable {pick}

theorem picked_texts {entries : List (String × Json)} (noText : ∀ text, pick (.text text) = none)
    (texts : ∀ entry ∈ entries, ∃ text, entry.2 = .text text) : picked pick entries = [] := by
  rw [picked, List.filterMap_eq_nil_iff]
  intro entry member
  obtain ⟨text, isText⟩ := texts entry member
  rw [isText, noText, Option.map_none]

theorem textEntry_texts (field : String) (text : Text) :
    ∀ entry ∈ textEntry field text, ∃ text, entry.2 = .text text := by
  rw [textEntry]
  split
  · exact List.forall_mem_nil _
  · exact List.forall_mem_singleton.mpr ⟨text, rfl⟩

variable (iso8601 : Nat → Text)

/-- What is no text comes from the readings, the words as they are and the further strings. -/
theorem picked_asDict (noText : ∀ text, pick (.text text) = none) (telemetry : Telemetry) :
    picked pick (asDictEntries iso8601 telemetry) =
      picked pick (readingEntries telemetry) ++
        picked pick (telemetry.rawWords.map fun (offset, word) => (rawField offset, .int word)) ++
        picked pick (stringEntries telemetry.pv34) := by
  have text := fun field value => picked_texts noText (textEntry_texts field value)
  have timestamp : picked pick (match telemetry.lastFaultTimestamp with
      | some time => [("last_fault_timestamp", .text (iso8601 time))]
      | none => []) = [] := by
    refine picked_texts noText ?_
    cases telemetry.lastFaultTimestamp with
    | none => exact List.forall_mem_nil _
    | some time => exact List.forall_mem_singleton.mpr ⟨iso8601 time, rfl⟩
  simp only [asDictEntries, picked_append, text, timestamp, List.append_nil, List.nil_append]

theorem picked_state (config : MqttConfig) (telemetry : Telemetry) :
    picked pick (stateEntries iso8601 config telemetry) =
      (picked pick (asDictEntries iso8601 telemetry)).filter fun entry =>
        config.debug || !isDebugField entry.1 := by
  rw [stateEntries]
  cases config.debug with
  | true => exact (List.filter_eq_self.mpr fun _ _ => rfl).symm
  | false => exact picked_filter pick (fun field => !isDebugField field) _

end Picked

/-- A field of the telemetry that debugging does not need is in the state object. -/
theorem mem_stateEntries {iso8601 : Nat → Text} {config : MqttConfig} {telemetry : Telemetry}
    {field : String} {value : Json} (isEntry : (field, value) ∈ asDictEntries iso8601 telemetry)
    (shown : config.debug = true ∨ isDebugField field = false) :
    (field, value) ∈ stateEntries iso8601 config telemetry := by
  rw [stateEntries]
  split
  · exact isEntry
  · rename_i notDebugging
    exact List.mem_filter.mpr ⟨isEntry, by rw [shown.resolve_left notDebugging]; rfl⟩

theorem rawWords_offsets {payload : Bytes} {source : TelemetrySource} {telemetry : Telemetry}
    (decoded : decodeTelemetry payload source = .ok telemetry) :
    telemetry.rawWords.map Prod.fst = rawOffsets := by
  rw [decodeTelemetry] at decoded
  split at decoded
  · cases decoded
  cases decoded
  rfl

/-- The text on the state topic is read as the state object. -/
theorem stateText_read (iso8601 : Nat → Text) (config : MqttConfig) {payload : Bytes}
    {source : TelemetrySource} {telemetry : Telemetry} {limits : Limits}
    (decoded : decodeTelemetry payload source = .ok telemetry) (deep : 1 ≤ limits.depth)
    (wide : 6 ≤ limits.digits) :
    loads limits (stateText iso8601 config telemetry) =
      .ok (toDict (stateEntries iso8601 config telemetry)) := by
  obtain ⟨depth, isDepth⟩ : ∃ depth, limits.depth = depth + 1 := ⟨limits.depth - 1, by omega⟩
  have fields : ((stateEntries iso8601 config telemetry).map fun (field, value) =>
      (field.toList, value)).map Prod.fst = (stateDict config telemetry).map String.toList := by
    rw [← stateEntries_fields iso8601 config (rawWords_offsets decoded), List.map_map, List.map_map]
    rfl
  have readable : Readable limits.digits limits.depth
      (toDict (stateEntries iso8601 config telemetry)) := by
    rw [isDepth]
    refine .dict ?_ fun entry member => ?_
    · rw [fields]
      exact (stateDict_nodup config telemetry).map fun _ _ => String.toList_inj.mp
    · obtain ⟨source, isEntry, rfl⟩ := List.mem_map.mp member
      refine asDictEntries_readable iso8601 decoded wide source ?_
      rw [stateEntries] at isEntry
      split at isEntry
      · exact isEntry
      · exact (List.mem_filter.mp isEntry).1
  have read := loads_dumps readable .compact false (List.forall_mem_nil _)
  rwa [List.append_nil] at read

/-- The whole numbers and the measurements of a decoded payload are those of its words. -/
theorem asDictEntries_picked (iso8601 : Nat → Text) {payload : Bytes} {source : TelemetrySource}
    {telemetry : Telemetry} (decoded : decodeTelemetry payload source = .ok telemetry) :
    picked numberOf (asDictEntries iso8601 telemetry) = wholeNumbers payload telemetry.pv34 ∧
      picked numeralOf (asDictEntries iso8601 telemetry) =
        (allMeasurements payload telemetry.pv34).map fun (field, reading) =>
          (field, readingNumeral reading) := by
  rw [picked_asDict iso8601 (fun _ => rfl), picked_asDict iso8601 (fun _ => rfl)]
  rw [decodeTelemetry] at decoded
  split at decoded
  · cases decoded
  cases decoded
  -- the further strings are there or not by the model and by the words of the payload
  obtain nothing | included := includedStrings_cases payload source.model
  · simp only [nothing]
    exact ⟨rfl, rfl⟩
  · simp only [included]
    exact ⟨rfl, rfl⟩

/-- The field of the state object that each topic of a single value repeats. -/
def scalarFields : List (String × String) :=
  [("0/power", "pv_power_w"), ("0/ac/power", "r_power_w"), ("0/ac/export_power", "export_power_w"),
    ("0/ac/voltage", "r_voltage_v"), ("0/ac/current", "r_current_a"),
    ("0/ac/frequency", "r_frequency_hz"), ("0/temperature", "inverter_temperature_c"),
    ("0/yieldtotal", "generation_kwh"), ("0/status", "operating_state"),
    ("1/power", "pv1_power_w"), ("1/voltage", "pv1_voltage_v"), ("1/current", "pv1_current_a"),
    ("2/power", "pv2_power_w"), ("2/voltage", "pv2_voltage_v"), ("2/current", "pv2_current_a"),
    ("3/power", "pv3_power_w"), ("3/voltage", "pv3_voltage_v"), ("3/current", "pv3_current_a"),
    ("4/power", "pv4_power_w"), ("4/voltage", "pv4_voltage_v"), ("4/current", "pv4_current_a"),
    ("0/sequence", "sequence"), ("0/status_code", "operating_state_code")]

/-- The payload is the text of the field that the topic repeats. -/
def Repeats (entries : List (String × Json)) (scalar : String × Payload) : Prop :=
  ∃ field value text, (scalar.1, field) ∈ scalarFields ∧ (field, value) ∈ entries ∧
    scalarText scalar.2 = some text ∧ valueText value = some text

theorem Repeats.of_place {entries : List (String × Json)} {scalar : String × Payload}
    (row place : Nat) {field : String} {value : Json} {text : Text}
    (named : scalarFields[row]? = some (scalar.1, field))
    (there : entries[place]? = some (field, value))
    (isText : scalarText scalar.2 = some text) (same : valueText value = some text) :
    Repeats entries scalar :=
  ⟨field, value, text, List.mem_of_getElem? named, List.mem_of_getElem? there, isText, same⟩

theorem Repeats.mono {entries all : List (String × Json)} {scalar : String × Payload}
    (repeated : Repeats entries scalar) (inside : ∀ entry ∈ entries, entry ∈ all) :
    Repeats all scalar := by
  obtain ⟨field, value, text, named, there, texts⟩ := repeated
  exact ⟨field, value, text, named, inside _ there, texts⟩

theorem readingEntries_subset (iso8601 : Nat → Text) (telemetry : Telemetry) :
    ∀ entry ∈ readingEntries telemetry, entry ∈ asDictEntries iso8601 telemetry := by
  intro entry member
  simp only [asDictEntries, List.mem_append, member, or_true, true_or]

theorem stringEntries_subset (iso8601 : Nat → Text) (telemetry : Telemetry) :
    ∀ entry ∈ stringEntries telemetry.pv34, entry ∈ asDictEntries iso8601 telemetry :=
  fun _ member => List.mem_append_right _ member

theorem scalarValues_repeat (telemetry : Telemetry) :
    ∀ scalar ∈ scalarValues telemetry, Repeats (readingEntries telemetry) scalar := by
  simp only [scalarValues, List.forall_mem_cons, List.not_mem_nil, false_implies, implies_true,
    and_true]
  exact ⟨.of_place 0 5 rfl rfl rfl rfl, .of_place 1 0 rfl rfl rfl rfl,
    .of_place 2 1 rfl rfl rfl rfl, .of_place 3 2 rfl rfl rfl rfl, .of_place 4 3 rfl rfl rfl rfl,
    .of_place 5 4 rfl rfl rfl rfl, .of_place 6 12 rfl rfl rfl rfl, .of_place 7 13 rfl rfl rfl rfl,
    .of_place 8 16 rfl rfl rfl rfl, .of_place 9 6 rfl rfl rfl rfl, .of_place 10 7 rfl rfl rfl rfl,
    .of_place 11 8 rfl rfl rfl rfl, .of_place 12 9 rfl rfl rfl rfl,
    .of_place 13 10 rfl rfl rfl rfl, .of_place 14 11 rfl rfl rfl rfl⟩

theorem optionalValues_repeat (strings : Option (PvString × PvString)) :
    ∀ scalar ∈ optionalValues strings, Repeats (stringEntries strings) scalar := by
  cases strings with
  | none => exact List.forall_mem_nil _
  | some strings =>
    simp only [optionalValues, List.forall_mem_cons, List.not_mem_nil, false_implies, implies_true,
      and_true]
    exact ⟨.of_place 15 0 rfl rfl rfl rfl, .of_place 16 1 rfl rfl rfl rfl,
      .of_place 17 2 rfl rfl rfl rfl, .of_place 18 3 rfl rfl rfl rfl,
      .of_place 19 4 rfl rfl rfl rfl, .of_place 20 5 rfl rfl rfl rfl⟩

theorem debugValues_repeat (telemetry : Telemetry) :
    ∀ scalar ∈ debugValues telemetry, Repeats (readingEntries telemetry) scalar := by
  simp only [debugValues, List.forall_mem_cons, List.not_mem_nil, false_implies, implies_true,
    and_true]
  exact ⟨.of_place 21 18 rfl rfl rfl rfl, .of_place 22 17 rfl rfl rfl rfl⟩

/-- Without debugging only the topics of debugging lose the fields that they repeat. -/
theorem Repeats.published {iso8601 : Nat → Text} {config : MqttConfig} {telemetry : Telemetry}
    {scalar : String × Payload} (repeated : Repeats (asDictEntries iso8601 telemetry) scalar)
    (shown : config.debug = true ∨ scalar.1 ∉ ["0/sequence", "0/status_code"]) :
    Repeats (stateEntries iso8601 config telemetry) scalar := by
  have plain : ∀ pair ∈ scalarFields, pair.1 ∉ ["0/sequence", "0/status_code"] →
      isDebugField pair.2 = false := by decide +kernel
  obtain ⟨field, value, text, named, there, texts⟩ := repeated
  exact ⟨field, value, text, named, mem_stateEntries there (shown.imp_right (plain _ named)), texts⟩

theorem plainValues_topics (telemetry : Telemetry) :
    ∀ scalar ∈ scalarValues telemetry ++ optionalValues telemetry.pv34,
      scalar.1 ∉ ["0/sequence", "0/status_code"] := by
  have always : ∀ topic ∈ (scalarValues telemetry).map Prod.fst,
      topic ∉ ["0/sequence", "0/status_code"] := by
    simp only [scalarValues, List.map_cons, List.map_nil]
    decide +kernel
  have optional : ∀ topic ∈ (optionalValues telemetry.pv34).map Prod.fst,
      topic ∉ ["0/sequence", "0/status_code"] := by
    cases telemetry.pv34 with
    | none => exact List.forall_mem_nil _
    | some strings =>
      simp only [optionalValues, List.map_cons, List.map_nil]
      decide +kernel
  intro scalar member
  rcases List.mem_append.mp member with isAlways | isOptional
  · exact always _ (List.mem_map_of_mem isAlways)
  · exact optional _ (List.mem_map_of_mem isOptional)

/-- A message on a topic of a single value repeats a field, or clears a topic of debugging. -/
inductive Mirrors (config : MqttConfig) (telemetry : Telemetry) (entries : List (String × Json)) :
    Message → Prop
  | repeats {scalar : String × Payload} (repeated : Repeats entries scalar) :
    Mirrors config telemetry entries
      ⟨config.inverterTopic telemetry.serial scalar.1, scalar.2, config.retain⟩
  | clears (notDebugging : config.debug = false) {cleared : String × Payload}
      (isDebug : cleared ∈ debugValues telemetry) :
    Mirrors config telemetry entries
      ⟨config.inverterTopic telemetry.serial cleared.1, .empty, true⟩

theorem scalarMessages_mirror (iso8601 : Nat → Text) (config : MqttConfig)
    (telemetry : Telemetry) : ∀ message ∈ scalarMessages config telemetry,
      Mirrors config telemetry (stateEntries iso8601 config telemetry) message := by
  have readings := readingEntries_subset iso8601 telemetry
  have strings := stringEntries_subset iso8601 telemetry
  have plain : ∀ scalar ∈ scalarValues telemetry ++ optionalValues telemetry.pv34,
      Repeats (stateEntries iso8601 config telemetry) scalar := by
    intro scalar member
    refine Repeats.published ?_ (.inr (plainValues_topics telemetry scalar member))
    rcases List.mem_append.mp member with always | optional
    · exact (scalarValues_repeat telemetry scalar always).mono readings
    · exact (optionalValues_repeat telemetry.pv34 scalar optional).mono strings
  intro message member
  rw [scalarMessages] at member
  split at member
  · rename_i debugging
    obtain ⟨scalar, isScalar, rfl⟩ := List.mem_map.mp member
    refine .repeats ?_
    rcases List.mem_append.mp isScalar with value | debug
    · exact plain scalar value
    · exact ((debugValues_repeat telemetry scalar debug).mono readings).published (.inl debugging)
  · rename_i notDebugging
    rcases List.mem_append.mp member with value | cleared
    · obtain ⟨scalar, isScalar, rfl⟩ := List.mem_map.mp value
      exact .repeats (plain scalar isScalar)
    · obtain ⟨debug, isDebug, rfl⟩ := List.mem_map.mp cleared
      exact .clears (Bool.eq_false_of_not_eq_true notDebugging) isDebug

theorem allMeasurements_plain (payload : Bytes) (strings : Option (PvString × PvString)) :
    ∀ measured ∈ allMeasurements payload strings,
      isDebugField measured.1 = false ∧ 0 < measured.2.divisor := by
  have plain : ∀ measured ∈ measurements payload ++ furtherMeasurements payload,
      isDebugField measured.1 = false ∧ 0 < measured.2.divisor := by
    simp only [measurements, furtherMeasurements, List.forall_mem_append,
      List.forall_mem_cons, List.not_mem_nil, false_implies, implies_true, and_true]
    decide +kernel
  intro measured member
  refine plain measured (List.mem_append.mpr ((List.mem_append.mp member).imp_right ?_))
  intro optional
  split at optional
  · exact optional
  · cases optional

/-- **What the inverter measures is what is published.**  The text on the state topic is read as an
object with the announced fields, each once.  The measurements in it are those of the payload, each
within half of its last decimal of the word of the payload divided by its divisor, and the whole
numbers in it are those of the payload, without debugging those that debugging does not need.  Each
message on a topic of a single value has the text of a field of the object, or clears a topic of
debugging. -/
theorem state_published (iso8601 : Nat → Text) (config : MqttConfig) {payload : Bytes}
    {source : TelemetrySource} {telemetry : Telemetry} {limits : Limits}
    (decoded : decodeTelemetry payload source = .ok telemetry) (deep : 1 ≤ limits.depth)
    (wide : 6 ≤ limits.digits) :
    ∃ entries, loads limits (stateText iso8601 config telemetry) = .ok (toDict entries) ∧
      entries.map Prod.fst = stateDict config telemetry ∧ (stateDict config telemetry).Nodup ∧
      List.Forall₂ (fun entry measured => entry.1 = measured.1 ∧ Measures entry.2 measured.2)
        (picked numeralOf entries) (allMeasurements payload telemetry.pv34) ∧
      picked numberOf entries = (wholeNumbers payload telemetry.pv34).filter (fun number =>
        config.debug || !isDebugField number.1) ∧
      ∀ message ∈ scalarMessages config telemetry, Mirrors config telemetry entries message := by
  have plain := allMeasurements_plain payload telemetry.pv34
  obtain ⟨numbers, measured⟩ := asDictEntries_picked iso8601 decoded
  refine ⟨stateEntries iso8601 config telemetry, stateText_read iso8601 config decoded deep wide,
    stateEntries_fields iso8601 config (rawWords_offsets decoded), stateDict_nodup config telemetry,
    ?_, ?_, scalarMessages_mirror iso8601 config telemetry⟩
  · -- no measurement is for debugging only
    have all : picked numeralOf (stateEntries iso8601 config telemetry) =
        (allMeasurements payload telemetry.pv34).map fun (field, reading) =>
          (field, readingNumeral reading) := by
      rw [picked_state iso8601, measured,
        List.filter_eq_self]
      intro entry member
      obtain ⟨measured, isMeasured, rfl⟩ := List.mem_map.mp member
      rw [(plain measured isMeasured).1]
      exact Bool.or_true _
    rw [all, List.forall₂_map_left_iff, List.forall₂_same]
    exact fun measured member => ⟨rfl, readingNumeral_measures (plain measured member).2⟩
  · rw [picked_state iso8601, numbers]

/-- 230 V, and nothing else. -/
def voltagePayload : Bytes := List.replicate 12 0 ++ [0x1C, 0xC0] ++ List.replicate 224 0

theorem state_published_voltage : ∃ telemetry entries value,
    decodeTelemetry voltagePayload ⟨['A'], [], [], [], [], none, [], []⟩ = .ok telemetry ∧
      loads ⟨990, 4300⟩ (stateText (fun _ => []) ⟨['h'], ['f'], ['d'], true, false⟩ telemetry) =
        .ok (toDict entries) ∧
      (picked numeralOf entries).head? = some ("r_voltage_v", value) ∧
      Measures value ⟨7360, 32, 3⟩ := by
  obtain ⟨telemetry, decoded⟩ := decodeTelemetry_ok ⟨['A'], [], [], [], [], none, [], []⟩
    (show voltagePayload.length = 238 by decide +kernel)
  have deep : 1 ≤ (⟨990, 4300⟩ : Limits).depth := by decide
  have wide : 6 ≤ (⟨990, 4300⟩ : Limits).digits := by decide
  obtain ⟨entries, read, _, _, measured, _⟩ :=
    state_published (fun _ => []) ⟨['h'], ['f'], ['d'], true, false⟩ decoded deep wide
  have word : u16 voltagePayload 12 = 7360 := by decide +kernel
  rw [allMeasurements, measurements, List.cons_append, word] at measured
  obtain ⟨⟨field, value⟩, later, ⟨isField, isMeasured⟩, _, isPicked⟩ :=
    List.forall₂_cons_right_iff.mp measured
  obtain rfl : field = "r_voltage_v" := isField
  exact ⟨telemetry, entries, value, decoded, read, by rw [isPicked]; rfl, isMeasured⟩

end FoxessGateway.Mqtt
