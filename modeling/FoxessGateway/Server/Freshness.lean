import FoxessGateway.Mqtt.Announced
import FoxessGateway.Mqtt.Topics
import Mathlib.Algebra.Order.Ring.Rat
import Mathlib.Data.Finset.Erase

/-! # Fresh telemetry

`publish_telemetry` and the telemetry watchdog of `FoxessLocalCloud`, and what either does to one
inverter and says of its availability. -/

namespace FoxessGateway.Server

open Protocol Effectful Action Runs Mqtt

/-! ## State -/

structure TelemetryConfig where
  mqtt : MqttConfig
  deviceNames : Dict Text Text
  telemetryStaleAfterSeconds : ℚ
  publishMinIntervalSeconds : ℚ

/-- The tables of the daemon that telemetry concerns, and its publisher. -/
structure TelemetryTables where
  /-- By the wall clock. -/
  lastPublishBySerial : Dict Text ℚ
  /-- By the monotonic clock. -/
  lastTelemetryBySerial : OrderedDict Text ℚ
  staleTelemetrySerials : Finset Text
  publisher : MqttPublisher

/-- The tables once the daemon has called `connect`. -/
def TelemetryTables.start (config : TelemetryConfig) : TelemetryTables where
  lastPublishBySerial := .empty
  lastTelemetryBySerial := .empty
  staleTelemetrySerials := ∅
  publisher := ((connect config.mqtt 0).run .fresh).state

inductive TelemetryEvent where
  | telemetryResumed (session : Nat) (serial : Text)
  | publishSkipped (session : Nat) (serial : Text)
  | telemetry (session : Nat) (telemetry : Telemetry) (rawNonzeroU16 : List (Nat × Nat))
  /-- The log rounds the age. -/
  | telemetryStale (serial : Text) (ageSeconds : ℚ)

inductive TelemetryEffect where
  | mqtt (effect : MqttEffect)
  | emit (event : TelemetryEvent)

abbrev InTelemetry := Action TelemetryTables TelemetryEffect PyError

/-- A call of `self.mqtt` -/
def onPublisher (action : InMqtt Unit) : InTelemetry Unit := do
  let tables ← get
  onPart tables.publisher (fun publisher tables => { tables with publisher := publisher }) .mqtt
    action

/-! ## Telemetry -/

section Functions

variable (config : TelemetryConfig)

/-- Telemetry of an inverter has come: it is fresh again. -/
def noteFreshTelemetry (session : Nat) (serial : Text) (monotonic : ℚ) : InTelemetry Unit := do
  let before ← get
  modify fun tables => { tables with
    lastTelemetryBySerial := tables.lastTelemetryBySerial.set serial monotonic
    staleTelemetrySerials := tables.staleTelemetrySerials.erase serial }
  doWhen (serial ∈ before.staleTelemetrySerials) do
    onPublisher (publishInverterAvailability config.mqtt serial "online".toList)
    perform (.emit (.telemetryResumed session serial))

/-- The telemetry comes too soon after what was published last. -/
def TooSoon (serial : Text) (wall : ℚ) (tables : TelemetryTables) : Prop :=
  serial ≠ [] ∧ 0 < config.publishMinIntervalSeconds ∧
    wall - (tables.lastPublishBySerial.get serial).getD 0 < config.publishMinIntervalSeconds

instance (serial : Text) (wall : ℚ) (tables : TelemetryTables) :
    Decidable (TooSoon config serial wall tables) :=
  inferInstanceAs (Decidable (_ ∧ _ ∧ _))

/-- `publish_telemetry`, with what the two clocks say. -/
def publishTelemetry (session : Nat) (monotonic wall : ℚ) (telemetry : Telemetry)
    (rawNonzeroU16 : List (Nat × Nat)) : InTelemetry Unit := do
  doWhen (telemetry.serial ≠ []) (noteFreshTelemetry config session telemetry.serial monotonic)
  let tables ← get
  if TooSoon config telemetry.serial wall tables then
    perform (.emit (.publishSkipped session telemetry.serial))
  else do
    doWhen (telemetry.serial ≠ []) (modify fun tables => { tables with
      lastPublishBySerial := tables.lastPublishBySerial.set telemetry.serial wall })
    perform (.emit (.telemetry session telemetry rawNonzeroU16))
    onPublisher (publish config.mqtt config.deviceNames telemetry)

/-- One inverter that the watchdog looks at. -/
def markIfStale (now : ℚ) (serial : Text) (lastSeen : ℚ) : InTelemetry Unit := do
  let tables ← get
  let age := now - lastSeen
  doWhen (¬ (age < config.telemetryStaleAfterSeconds ∨ serial ∈ tables.staleTelemetrySerials)) do
    modify fun tables => { tables with
      staleTelemetrySerials := insert serial tables.staleTelemetrySerials }
    onPublisher (publishInverterAvailability config.mqtt serial "offline".toList)
    perform (.emit (.telemetryStale serial age))

/-- The loop of `_mark_stale_telemetry` -/
def markStale (now : ℚ) : List (Text × ℚ) → InTelemetry Unit
  | [] => pure ()
  | (serial, lastSeen) :: entries => do
    markIfStale config now serial lastSeen
    markStale now entries

def markStaleTelemetry (now : ℚ) : InTelemetry Unit := do
  let tables ← get
  markStale config now tables.lastTelemetryBySerial.items

end Functions

/-! ## What is published -/

/-- What an effect says of the availability of an inverter. -/
def availabilityOf (config : MqttConfig) (serial : Text) : TelemetryEffect → Option Payload
  | .mqtt ⟨_, .publish message⟩ =>
    if message.topic = config.inverterTopic serial "availability" then some message.payload
    else none
  | _ => none

/-- The values published for the availability of an inverter. -/
def availabilities (config : MqttConfig) (serial : Text) (effects : List TelemetryEffect) :
    List Payload :=
  effects.filterMap (availabilityOf config serial)

def onlinePayload : Payload := .text "online".toList

def offlinePayload : Payload := .text "offline".toList

section Published

variable (config : MqttConfig) (serial : Text)

theorem availabilities_append (first later : List TelemetryEffect) :
    availabilities config serial (first ++ later) =
      availabilities config serial first ++ availabilities config serial later :=
  List.filterMap_append

theorem availabilities_publishes (client : Nat) (messages : List Message) :
    availabilities config serial ((publishes client messages).map .mqtt) =
      (messages.filter (·.topic = config.inverterTopic serial "availability")).map
        Message.payload := by
  induction messages with
  | nil => rfl
  | cons message messages inductionHypothesis =>
    by_cases same : message.topic = config.inverterTopic serial "availability"
    · rw [List.filter_cons_of_pos (by simpa using same), List.map_cons, ← inductionHypothesis]
      exact List.filterMap_cons_some (if_pos same)
    · rw [List.filter_cons_of_neg (by simpa using same), ← inductionHypothesis]
      exact List.filterMap_cons_none (if_neg same)

end Published

/-! ## One inverter -/

/-- What the tables have of one inverter. -/
structure FreshnessView where
  lastSeen : Option ℚ
  isStale : Bool
  lastPublish : Option ℚ

def TelemetryTables.freshness (tables : TelemetryTables) (serial : Text) : FreshnessView where
  lastSeen := tables.lastTelemetryBySerial.get serial
  isStale := serial ∈ tables.staleTelemetrySerials
  lastPublish := tables.lastPublishBySerial.get serial

namespace FreshnessView

variable (config : TelemetryConfig) (view : FreshnessView)

/-- Telemetry has come. -/
def resume (monotonic : ℚ) : FreshnessView × List Payload :=
  ({ view with lastSeen := some monotonic, isStale := false },
    if view.isStale = true then [onlinePayload] else [])

/-- Telemetry is published, where it does not come too soon. -/
def publish (wall : ℚ) : FreshnessView × List Payload :=
  if 0 < config.publishMinIntervalSeconds ∧
      wall - view.lastPublish.getD 0 < config.publishMinIntervalSeconds then (view, [])
  else ({ view with lastPublish := some wall }, [onlinePayload])

def telemetry (monotonic wall : ℚ) : FreshnessView × List Payload :=
  let (resumed, first) := view.resume monotonic
  let (published, later) := resumed.publish config wall
  (published, first ++ later)

/-- The watchdog finds that the telemetry was last seen at a time. -/
def check (now : ℚ) : Option ℚ → FreshnessView × List Payload
  | some lastSeen =>
    if config.telemetryStaleAfterSeconds ≤ now - lastSeen ∧ view.isStale = false then
      ({ view with isStale := true }, [offlinePayload])
    else (view, [])
  | none => (view, [])

/-- What telemetry says of the availability: it is online in the end, unless it was already and the
telemetry comes too soon. -/
theorem telemetry_cases (monotonic : ℚ) {wall : ℚ}
    (isSet : config.publishMinIntervalSeconds ≤ wall) :
    (view.telemetry config monotonic wall).1.lastSeen = some monotonic ∧
      (view.telemetry config monotonic wall).1.isStale = false ∧
      ((view.telemetry config monotonic wall).2.getLast? = some onlinePayload ∨
        ((view.telemetry config monotonic wall).2 = [] ∧ view.isStale = false ∧
          view.lastPublish.isSome = true)) := by
  let resumed := (view.resume monotonic).1
  have said : view.telemetry config monotonic wall = ((resumed.publish config wall).1,
    (view.resume monotonic).2 ++ (resumed.publish config wall).2) := rfl
  by_cases soon : 0 < config.publishMinIntervalSeconds ∧
      wall - view.lastPublish.getD 0 < config.publishMinIntervalSeconds
  · have skipped : resumed.publish config wall = (resumed, []) := if_pos soon
    rw [said, skipped]
    refine ⟨rfl, rfl, ?_⟩
    cases stale : view.isStale with
    | true =>
      left
      rw [resume, if_pos stale]
      rfl
    | false =>
      refine .inr ⟨?_, rfl, ?_⟩
      · rw [resume, if_neg (by rw [stale]; exact Bool.false_ne_true)]
        rfl
      · -- the first publication is never too soon
        by_contra never
        rw [Bool.not_eq_true, Option.isSome_eq_false_iff, Option.isNone_iff_eq_none] at never
        rw [never, Option.getD_none, sub_zero] at soon
        exact absurd soon.2 (not_lt.mpr isSet)
  · have sent : resumed.publish config wall =
        ({ resumed with lastPublish := some wall }, [onlinePayload]) := if_neg soon
    rw [said, sent]
    exact ⟨rfl, rfl, .inl List.getLast?_concat⟩

end FreshnessView

section Functions

variable {config : TelemetryConfig} {tables : TelemetryTables} {client : Nat}

/-- What a step does to an inverter, and what it says of its availability. -/
def Outcome.freshness (config : TelemetryConfig)
    (outcome : Outcome TelemetryTables TelemetryEffect PyError Unit) (serial : Text) :
    FreshnessView × List Payload :=
  (outcome.state.freshness serial, availabilities config.mqtt serial outcome.effects)

theorem freshness_append (config : TelemetryConfig)
    (first second : Outcome TelemetryTables TelemetryEffect PyError Unit) (serial : Text)
    (value : Except PyError Unit) :
    Outcome.freshness config ⟨second.state, first.effects ++ second.effects, value⟩ serial =
      ((Outcome.freshness config second serial).1,
        (Outcome.freshness config first serial).2 ++
          (Outcome.freshness config second serial).2) :=
  congrArg (Prod.mk _) (availabilities_append config.mqtt serial first.effects second.effects)

theorem publishInverterAvailability_run {config : MqttConfig} {publisher : MqttPublisher}
    {serial : Text} (enabled : config.enabled = true) (isClient : publisher.client = some client)
    (named : serial ≠ []) (status : Text) :
    (publishInverterAvailability config serial status).run publisher =
      ⟨publisher, [⟨client, .publish (config.availability serial status)⟩], .ok ()⟩ := by
  have sends : ¬ publisher.Skips config serial := by
    rintro (disabled | none | unnamed)
    · exact absurd (enabled.symm.trans disabled) (by decide)
    · exact absurd (isClient.symm.trans none) (by simp)
    · exact named unnamed
  rw [publishInverterAvailability, run_get_bind, doWhen, if_pos sends]
  exact callClient_run isClient _

/-- The message of an availability concerns its inverter alone. -/
theorem availabilityOf_availability (config : MqttConfig) (serial other status : Text) :
    availabilityOf config serial (.mqtt ⟨client, .publish (config.availability other status)⟩) =
      if serial = other then some (.text status) else none := by
  rw [availabilityOf]
  by_cases same : serial = other
  · rw [if_pos same, same]
    exact if_pos rfl
  · rw [if_neg same]
    exact if_neg fun topics => same ((config.inverterTopic_inj).mp topics).symm

/-- An availability is published and logged. -/
theorem announce_run (enabled : config.mqtt.enabled = true)
    (isClient : tables.publisher.client = some client) {serial : Text} (named : serial ≠ [])
    (status : Text) (event : TelemetryEvent) :
    (do onPublisher (publishInverterAvailability config.mqtt serial status)
        perform (.emit event) : InTelemetry Unit).run tables =
      ⟨tables, [.mqtt ⟨client, .publish (config.mqtt.availability serial status)⟩, .emit event],
        .ok ()⟩ := by
  have published : (onPublisher (publishInverterAvailability config.mqtt serial status)).run
      tables =
        ⟨tables, [.mqtt ⟨client, .publish (config.mqtt.availability serial status)⟩], .ok ()⟩ := by
    rw [onPublisher, run_get_bind, onPart]
    dsimp only
    rw [publishInverterAvailability_run enabled isClient named]
    rfl
  rw [run_bind_ok (by rw [published]), published]
  rfl

theorem availabilities_announce (config : MqttConfig) (serial other status : Text)
    (event : TelemetryEvent) :
    availabilities config serial
        [.mqtt ⟨client, .publish (config.availability other status)⟩, .emit event] =
      if serial = other then [.text status] else [] := by
  have first : availabilityOf config serial
      (.mqtt ⟨client, .publish (config.availability other status)⟩) =
        if serial = other then some (.text status) else none :=
    availabilityOf_availability config serial other status
  rw [availabilities]
  split
  · rename_i same
    rw [if_pos same] at first
    rw [List.filterMap_cons_some first]
    rfl
  · rename_i apart
    rw [if_neg apart] at first
    rw [List.filterMap_cons_none first]
    rfl

theorem noteFreshTelemetry_freshness (enabled : config.mqtt.enabled = true)
    (isClient : tables.publisher.client = some client) (session : Nat) {other : Text}
    (named : other ≠ []) (monotonic : ℚ) (serial : Text) :
    let outcome := (noteFreshTelemetry config session other monotonic).run tables
    outcome.value = .ok () ∧ outcome.state.publisher = tables.publisher ∧
      Outcome.freshness config outcome serial =
        if serial = other then (tables.freshness serial).resume monotonic
        else (tables.freshness serial, []) := by
  let after : TelemetryTables := { tables with
    lastTelemetryBySerial := tables.lastTelemetryBySerial.set other monotonic
    staleTelemetrySerials := tables.staleTelemetrySerials.erase other }
  have isAfter : after.freshness serial =
      if serial = other then
        { tables.freshness serial with lastSeen := some monotonic, isStale := false }
      else tables.freshness serial := by
    by_cases same : serial = other
    · subst same
      simp [after, TelemetryTables.freshness, OrderedDict.get_set]
    · simp [after, TelemetryTables.freshness, OrderedDict.get_set, same]
  have isClientAfter : after.publisher.client = some client := isClient
  rw [noteFreshTelemetry, run_get_bind, run_modify_bind, doWhen]
  by_cases stale : other ∈ tables.staleTelemetrySerials
  · rw [if_pos stale, announce_run enabled isClientAfter named]
    refine ⟨rfl, rfl, ?_⟩
    rw [Outcome.freshness, isAfter, availabilities_announce]
    split
    · rename_i same
      have isStale : (tables.freshness serial).isStale = true := by
        rw [same]
        exact decide_eq_true stale
      rw [FreshnessView.resume, if_pos isStale]
      rfl
    · rfl
  · rw [if_neg stale]
    refine ⟨rfl, rfl, ?_⟩
    rw [Outcome.freshness]
    change (after.freshness serial, []) = _
    rw [isAfter]
    split
    · rename_i same
      have notStale : ¬ (tables.freshness serial).isStale = true := by
        rw [same]
        exact fun isStale => stale (of_decide_eq_true isStale)
      rw [FreshnessView.resume, if_neg notStale]
    · rfl

/-- The messages for telemetry say once that its inverter is available. -/
theorem availabilities_publish {publisher : MqttPublisher} {telemetry : Telemetry}
    (sends : ¬ publisher.Skips config.mqtt telemetry.serial) (serial : Text) :
    availabilities config.mqtt serial
        (((publish config.mqtt config.deviceNames telemetry).run publisher).effects.map .mqtt) =
      if telemetry.serial = serial then [onlinePayload] else [] := by
  obtain ⟨client, _, sent⟩ := publish_sends config.mqtt config.deviceNames sends
  have announced : ((publisher.announcement config.mqtt config.deviceNames telemetry).getD
      []).filter (·.topic = config.mqtt.inverterTopic serial "availability") = [] := by
    rw [List.filter_eq_nil_iff]
    intro message member
    rw [MqttPublisher.announcement] at member
    split at member
    · simpa using discoveryMessages_notAvailability config.mqtt serial member
    · cases member
  rw [sent, availabilities_publishes, List.filter_append, announced, List.nil_append,
    telemetryMessages_availability]
  split <;> rfl

/-- Telemetry that does not come too soon. -/
theorem publishNow_freshness (enabled : config.mqtt.enabled = true)
    (isClient : tables.publisher.client = some client) (session : Nat) (wall : ℚ)
    {telemetry : Telemetry} (named : telemetry.serial ≠ []) (words : List (Nat × Nat))
    (serial : Text) :
    let outcome := (do
      doWhen (telemetry.serial ≠ []) (modify fun tables => { tables with
        lastPublishBySerial := tables.lastPublishBySerial.set telemetry.serial wall })
      perform (.emit (.telemetry session telemetry words))
      onPublisher (publish config.mqtt config.deviceNames telemetry) : InTelemetry Unit).run tables
    outcome.state.publisher.client = some client ∧
      Outcome.freshness config outcome serial =
        if serial = telemetry.serial then
          ({ tables.freshness serial with lastPublish := some wall }, [onlinePayload])
        else (tables.freshness serial, []) := by
  have sends : ¬ tables.publisher.Skips config.mqtt telemetry.serial := by
    rintro (disabled | none | unnamed)
    · exact absurd (enabled.symm.trans disabled) (by decide)
    · exact absurd (isClient.symm.trans none) (by simp)
    · exact named unnamed
  have kept := (publish_run config.mqtt config.deviceNames telemetry tables.publisher).1
  have said : availabilities config.mqtt serial (((publish config.mqtt config.deviceNames
      telemetry).run tables.publisher).effects.map .mqtt) =
        if telemetry.serial = serial then [onlinePayload] else [] :=
    availabilities_publish sends serial
  rw [doWhen, if_pos named, run_modify_bind, run_perform_bind]
  refine ⟨kept.trans isClient, ?_⟩
  have view : ({ tables with lastPublishBySerial :=
      tables.lastPublishBySerial.set telemetry.serial wall } : TelemetryTables).freshness serial =
        if serial = telemetry.serial then
          { tables.freshness serial with lastPublish := some wall }
        else tables.freshness serial := by
    by_cases same : serial = telemetry.serial <;>
      simp [TelemetryTables.freshness, Dict.get_set, same]
  by_cases same : serial = telemetry.serial
  · rw [if_pos same] at view ⊢
    rw [if_pos same.symm] at said
    exact Prod.ext view said
  · rw [if_neg same] at view ⊢
    rw [if_neg (Ne.symm same)] at said
    exact Prod.ext view said

/-- Telemetry that may come too soon. -/
theorem publishUnlessTooSoon_freshness (enabled : config.mqtt.enabled = true)
    (isClient : tables.publisher.client = some client) (session : Nat) (wall : ℚ)
    {telemetry : Telemetry} (named : telemetry.serial ≠ []) (words : List (Nat × Nat))
    (serial : Text) :
    let outcome := (if TooSoon config telemetry.serial wall tables then
        perform (.emit (.publishSkipped session telemetry.serial))
      else do
        doWhen (telemetry.serial ≠ []) (modify fun tables => { tables with
          lastPublishBySerial := tables.lastPublishBySerial.set telemetry.serial wall })
        perform (.emit (.telemetry session telemetry words))
        onPublisher (publish config.mqtt config.deviceNames telemetry) :
          InTelemetry Unit).run tables
    outcome.state.publisher.client = some client ∧
      Outcome.freshness config outcome serial =
        if serial = telemetry.serial then (tables.freshness serial).publish config wall
        else (tables.freshness serial, []) := by
  dsimp only
  by_cases soon : TooSoon config telemetry.serial wall tables
  · rw [if_pos soon]
    refine ⟨isClient, ?_⟩
    change (tables.freshness serial, []) = _
    split
    · rename_i same
      subst same
      exact (if_pos soon.2).symm
    · rfl
  · rw [if_neg soon]
    obtain ⟨kept, published⟩ :=
      publishNow_freshness enabled isClient session wall named words serial
    refine ⟨kept, published.trans ?_⟩
    split
    · rename_i same
      subst same
      exact (if_neg fun condition => soon ⟨named, condition⟩).symm
    · rfl

/-- **Telemetry** concerns its own inverter, and no other. -/
theorem publishTelemetry_freshness (enabled : config.mqtt.enabled = true)
    (isClient : tables.publisher.client = some client) (session : Nat) (monotonic wall : ℚ)
    {telemetry : Telemetry} (named : telemetry.serial ≠ []) (words : List (Nat × Nat))
    (serial : Text) :
    let outcome := (publishTelemetry config session monotonic wall telemetry words).run tables
    outcome.state.publisher.client = some client ∧
      Outcome.freshness config outcome serial =
        if serial = telemetry.serial then
          (tables.freshness serial).telemetry config monotonic wall
        else (tables.freshness serial, []) := by
  dsimp only
  obtain ⟨returned, samePublisher, resumed⟩ :=
    noteFreshTelemetry_freshness enabled isClient session named monotonic serial
  rw [publishTelemetry, doWhen, if_pos named, run_bind_ok returned, run_get_bind]
  generalize (noteFreshTelemetry config session telemetry.serial monotonic).run tables = first
    at samePublisher resumed ⊢
  have isClientThen : first.state.publisher.client = some client := by
    rw [samePublisher]
    exact isClient
  obtain ⟨kept, published⟩ := publishUnlessTooSoon_freshness enabled isClientThen session wall named
    words serial
  refine ⟨kept, ?_⟩
  rw [freshness_append, published]
  split
  · rename_i same
    rw [if_pos same] at resumed
    rw [FreshnessView.telemetry, ← resumed]
    rfl
  · rename_i apart
    rw [if_neg apart] at resumed
    rw [resumed]
    exact congrArg (·, []) (congrArg Prod.fst resumed)

/-- Telemetry without a serial concerns no inverter. -/
theorem publishTelemetry_unnamed (session : Nat) (monotonic wall : ℚ) {telemetry : Telemetry}
    (unnamed : telemetry.serial = []) (words : List (Nat × Nat)) :
    (publishTelemetry config session monotonic wall telemetry words).run tables =
      ⟨tables, [.emit (.telemetry session telemetry words)], .ok ()⟩ := by
  have notSoon : ¬ TooSoon config telemetry.serial wall tables := fun soon => soon.1 unnamed
  have skips : tables.publisher.Skips config.mqtt telemetry.serial := .inr (.inr unnamed)
  have nothing : (publish config.mqtt config.deviceNames telemetry).run tables.publisher =
      ⟨tables.publisher, [], .ok ()⟩ := by
    rw [publish, run_get_bind, doWhen, if_neg (not_not_intro skips)]
    rfl
  rw [publishTelemetry, doWhen, if_neg (not_not_intro unnamed), run_pure_bind, run_get_bind,
    if_neg notSoon, doWhen, if_neg (not_not_intro unnamed), run_pure_bind, run_perform_bind,
    onPublisher, run_get_bind, onPart]
  dsimp only
  rw [nothing]
  rfl

/-- **The watchdog** looks at one inverter. -/
theorem markIfStale_freshness (enabled : config.mqtt.enabled = true)
    (isClient : tables.publisher.client = some client) (now : ℚ) {other : Text}
    (named : other ≠ []) (lastSeen : ℚ) (serial : Text) :
    let outcome := (markIfStale config now other lastSeen).run tables
    outcome.value = .ok () ∧ outcome.state.publisher = tables.publisher ∧
      Outcome.freshness config outcome serial =
        if serial = other then (tables.freshness serial).check config now (some lastSeen)
        else (tables.freshness serial, []) := by
  let after : TelemetryTables := { tables with
    staleTelemetrySerials := insert other tables.staleTelemetrySerials }
  have isAfter : after.freshness serial =
      if serial = other then { tables.freshness serial with isStale := true }
      else tables.freshness serial := by
    by_cases same : serial = other <;> simp [after, TelemetryTables.freshness, same]
  have isClientAfter : after.publisher.client = some client := isClient
  have condition : (¬ (now - lastSeen < config.telemetryStaleAfterSeconds ∨
      other ∈ tables.staleTelemetrySerials)) ↔
        config.telemetryStaleAfterSeconds ≤ now - lastSeen ∧
          (tables.freshness other).isStale = false := by
    rw [not_or, not_lt]
    exact and_congr_right fun _ => decide_eq_false_iff_not.symm
  rw [markIfStale, run_get_bind, doWhen]
  by_cases marks : ¬ (now - lastSeen < config.telemetryStaleAfterSeconds ∨
      other ∈ tables.staleTelemetrySerials)
  · rw [if_pos marks, run_modify_bind, announce_run enabled isClientAfter named]
    refine ⟨rfl, rfl, ?_⟩
    rw [Outcome.freshness, isAfter, availabilities_announce]
    split
    · rename_i same
      subst same
      exact (if_pos (condition.mp marks)).symm
    · rfl
  · rw [if_neg marks]
    refine ⟨rfl, rfl, ?_⟩
    change (tables.freshness serial, []) = _
    split
    · rename_i same
      subst same
      exact (if_neg fun both => marks (condition.mpr both)).symm
    · rfl

/-- The watchdog looks at every inverter once. -/
theorem markStale_freshness (enabled : config.mqtt.enabled = true) (now : ℚ) (serial : Text)
    {entries : List (Text × ℚ)} (named : ∀ entry ∈ entries, entry.1 ≠ [])
    (distinct : (entries.map Prod.fst).Nodup) (isClient : tables.publisher.client = some client) :
    let outcome := (markStale config now entries).run tables
    outcome.value = .ok () ∧ outcome.state.publisher = tables.publisher ∧
      Outcome.freshness config outcome serial =
        (tables.freshness serial).check config now (entries.lookup serial) := by
  induction entries generalizing tables with
  | nil => exact ⟨rfl, rfl, rfl⟩
  | cons entry entries inductionHypothesis =>
    obtain ⟨other, lastSeen⟩ := entry
    obtain ⟨returned, samePublisher, first⟩ := markIfStale_freshness enabled isClient now
      (named (other, lastSeen) List.mem_cons_self) lastSeen serial
    dsimp only
    rw [markStale, run_bind_ok returned]
    generalize (markIfStale config now other lastSeen).run tables = outcome at samePublisher first ⊢
    rw [List.map_cons, List.nodup_cons] at distinct
    obtain ⟨new, distinctThen⟩ := distinct
    obtain ⟨returnedThen, samePublisherThen, later⟩ := inductionHypothesis
      (fun entry member => named entry (List.mem_cons_of_mem _ member)) distinctThen
      (samePublisher ▸ isClient)
    refine ⟨returnedThen, samePublisherThen.trans samePublisher, ?_⟩
    rw [freshness_append, later]
    by_cases same : serial = other
    · -- the other entries are of other inverters
      subst same
      have absent : entries.lookup serial = none := by
        rw [List.lookup_eq_none_iff]
        rintro ⟨key, value⟩ member
        rw [bne_iff_ne]
        intro same
        exact new (List.mem_map.mpr ⟨(key, value), member, same.symm⟩)
      rw [if_pos rfl] at first
      rw [absent, List.lookup_cons_self, ← first]
      exact congrArg _ (List.append_nil _)
    · rw [if_neg same] at first
      have sameLookup : ((other, lastSeen) :: entries).lookup serial = entries.lookup serial := by
        rw [List.lookup_cons, beq_eq_false_iff_ne.mpr same]
      obtain ⟨sameView, silent⟩ := Prod.mk.inj first
      rw [sameLookup, sameView, first]
      rfl

theorem markStaleTelemetry_freshness (enabled : config.mqtt.enabled = true)
    (isClient : tables.publisher.client = some client)
    (named : tables.lastTelemetryBySerial.get [] = none) (now : ℚ) (serial : Text) :
    let outcome := (markStaleTelemetry config now).run tables
    outcome.state.publisher = tables.publisher ∧
      Outcome.freshness config outcome serial =
        (tables.freshness serial).check config now (tables.freshness serial).lastSeen := by
  have keys : ∀ entry ∈ tables.lastTelemetryBySerial.items, entry.1 ≠ [] := by
    rintro ⟨key, value⟩ member rfl
    exact absurd ((OrderedDict.mem_items.mp member).symm.trans named) (by simp)
  obtain ⟨_, samePublisher, checked⟩ := markStale_freshness enabled now serial keys
    tables.lastTelemetryBySerial.items_distinct isClient
  dsimp only
  rw [markStaleTelemetry, run_get_bind]
  refine ⟨samePublisher, checked.trans ?_⟩
  rw [OrderedDict.lookup_items]
  rfl

end Functions

end FoxessGateway.Server
