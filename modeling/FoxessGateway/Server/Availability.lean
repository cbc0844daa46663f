import FoxessGateway.Library.Runs
import FoxessGateway.Server.Freshness
import Mathlib.Data.List.DropRight
import Mathlib.Data.Nat.Cast.Order.Ring

/-! # Availability

The availability that is published of an inverter follows how fresh its telemetry is, over runs of
telemetry of any inverters and wake-ups of the watchdog. -/

namespace FoxessGateway.Server

open Protocol Effectful Action Runs Mqtt

/-! ## Runs -/

/-- What the clocks say.  The wall clock has been set. -/
structure ClockReading (config : TelemetryConfig) where
  monotonic : ℚ
  wall : ℚ
  isSet : config.publishMinIntervalSeconds ≤ wall

/-- Whatever else happens to the publisher, as long as it has a client. -/
structure PublisherActivity where
  change : MqttPublisher → MqttPublisher
  client_kept : ∀ publisher, publisher.client.isSome = true →
    (change publisher).client.isSome = true

inductive AvailabilityAction (config : TelemetryConfig) where
  | telemetry (session : Nat) (clocks : ClockReading config) (telemetry : Telemetry)
      (rawNonzeroU16 : List (Nat × Nat))
  /-- The watchdog of the telemetry wakes up. -/
  | tick (now : ℚ)
  | besides (activity : PublisherActivity)

structure AvailabilityRecord where
  /-- The serial of telemetry, and when it came by the monotonic clock. -/
  telemetry : Option (Text × ℚ)
  tick : Option ℚ
  effects : List TelemetryEffect

def availabilityMachine (config : TelemetryConfig) :
    Machine TelemetryTables (AvailabilityAction config) AvailabilityRecord :=
  fun tables action =>
  match action with
  | .telemetry session clocks telemetry words =>
    let outcome := (publishTelemetry config session clocks.monotonic clocks.wall telemetry
      words).run tables
    some (outcome.state, [⟨if telemetry.serial = [] then none
      else some (telemetry.serial, clocks.monotonic), none, outcome.effects⟩])
  | .tick now =>
    let outcome := (markStaleTelemetry config now).run tables
    some (outcome.state, [⟨none, some now, outcome.effects⟩])
  | .besides activity =>
    some ({ tables with publisher := activity.change tables.publisher }, [])

/-! ### What the records say -/

/-- When telemetry of the inverter came with the record. -/
def AvailabilityRecord.telemetryOf (serial : Text) (record : AvailabilityRecord) : Option ℚ :=
  (record.telemetry.filter (·.1 = serial)).map Prod.snd

def lastTelemetry (serial : Text) (history : List AvailabilityRecord) : Option ℚ :=
  (history.filterMap (·.telemetryOf serial)).getLast?

/-- The records after the last telemetry of the inverter. -/
def sinceTelemetry (serial : Text) (history : List AvailabilityRecord) :
    List AvailabilityRecord :=
  history.rtakeWhile fun record => (record.telemetryOf serial).isNone

/-- The watchdog has found the last telemetry of the inverter as old as the timeout. -/
def WentStale (config : TelemetryConfig) (serial : Text) (history : List AvailabilityRecord) :
    Prop :=
  ∃ seen, lastTelemetry serial history = some seen ∧
    ∃ record ∈ sinceTelemetry serial history, ∃ now, record.tick = some now ∧
      config.telemetryStaleAfterSeconds ≤ now - seen

/-- The values published for the availability of the inverter. -/
def availabilityValues (config : TelemetryConfig) (serial : Text)
    (history : List AvailabilityRecord) : List Payload :=
  history.flatMap fun record => availabilities config.mqtt serial record.effects

section History

variable {config : TelemetryConfig} {serial : Text} (history : List AvailabilityRecord)
  {record : AvailabilityRecord}

theorem availabilityValues_concat :
    availabilityValues config serial (history ++ [record]) =
      availabilityValues config serial history ++
        availabilities config.mqtt serial record.effects := by
  rw [availabilityValues, List.flatMap_append, List.flatMap_singleton]
  rfl

theorem lastTelemetry_concat_some {time : ℚ} (sent : record.telemetryOf serial = some time) :
    lastTelemetry serial (history ++ [record]) = some time := by
  rw [lastTelemetry, List.filterMap_append, List.filterMap_cons_some sent, List.filterMap_nil,
    List.getLast?_concat]

theorem lastTelemetry_concat_none (other : record.telemetryOf serial = none) :
    lastTelemetry serial (history ++ [record]) = lastTelemetry serial history := by
  rw [lastTelemetry, List.filterMap_append, List.filterMap_cons_none other, List.filterMap_nil,
    List.append_nil]
  rfl

theorem sinceTelemetry_concat_some {time : ℚ} (sent : record.telemetryOf serial = some time) :
    sinceTelemetry serial (history ++ [record]) = [] := by
  rw [sinceTelemetry, List.rtakeWhile_concat, sent]
  rfl

theorem sinceTelemetry_concat_none (other : record.telemetryOf serial = none) :
    sinceTelemetry serial (history ++ [record]) = sinceTelemetry serial history ++ [record] := by
  rw [sinceTelemetry, List.rtakeWhile_concat, other]
  rfl

/-- A record without telemetry of the inverter makes it stale where it is a tick that finds it so.
-/
theorem wentStale_concat_none (other : record.telemetryOf serial = none) :
    WentStale config serial (history ++ [record]) ↔ WentStale config serial history ∨
      ∃ seen, lastTelemetry serial history = some seen ∧ ∃ now, record.tick = some now ∧
        config.telemetryStaleAfterSeconds ≤ now - seen := by
  rw [WentStale, WentStale, lastTelemetry_concat_none history other,
    sinceTelemetry_concat_none history other]
  constructor
  · rintro ⟨seen, isLast, found, member, ticked⟩
    rcases List.mem_append.mp member with before | now
    · exact .inl ⟨seen, isLast, found, before, ticked⟩
    · cases List.mem_singleton.mp now
      exact .inr ⟨seen, isLast, ticked⟩
  · rintro (⟨seen, isLast, found, member, ticked⟩ | ⟨seen, isLast, ticked⟩)
    · exact ⟨seen, isLast, found, List.mem_append_left _ member, ticked⟩
    · exact ⟨seen, isLast, record, List.mem_append_right _ (List.mem_singleton_self _), ticked⟩

theorem not_wentStale_concat_some {time : ℚ} (sent : record.telemetryOf serial = some time) :
    ¬ WentStale config serial (history ++ [record]) := by
  rintro ⟨_, _, found, member, _⟩
  rw [sinceTelemetry_concat_some history sent] at member
  cases member

end History

/-! ### The invariant -/

/-- The view of an inverter fits what the records say. -/
structure Follows (config : TelemetryConfig) (serial : Text) (view : FreshnessView)
    (history : List AvailabilityRecord) : Prop where
  seen : view.lastSeen = lastTelemetry serial history
  /-- What was published was seen before. -/
  published : view.lastPublish.isSome = true → view.lastSeen.isSome = true
  stale : view.isStale = true ↔ WentStale config serial history
  last : (availabilityValues config serial history).getLast? =
    view.lastSeen.map fun _ => if view.isStale = true then offlinePayload else onlinePayload
  once : (availabilityValues config serial (sinceTelemetry serial history)).count offlinePayload =
    if view.isStale = true then 1 else 0
  own : ∀ record ∈ history, ∀ other time, record.telemetry = some (other, time) →
    other ≠ serial → availabilities config.mqtt serial record.effects = []

namespace Follows

variable {config : TelemetryConfig} {serial : Text} {view after : FreshnessView}
  {history : List AvailabilityRecord} {record : AvailabilityRecord}

theorem own_concat (follows : Follows config serial view history)
    (silent : ∀ other time, record.telemetry = some (other, time) → other ≠ serial →
      availabilities config.mqtt serial record.effects = []) :
    ∀ found ∈ history ++ [record], ∀ other time, found.telemetry = some (other, time) →
      other ≠ serial → availabilities config.mqtt serial found.effects = [] := by
  intro found member
  rcases List.mem_append.mp member with before | now
  · exact follows.own found before
  · rw [List.mem_singleton.mp now]
    exact silent

/-- **Telemetry of the inverter.** -/
theorem telemetry (follows : Follows config serial view history) {monotonic wall : ℚ}
    (isSet : config.publishMinIntervalSeconds ≤ wall)
    (sent : record.telemetry = some (serial, monotonic))
    (stepped : (after, availabilities config.mqtt serial record.effects) =
      view.telemetry config monotonic wall) :
    Follows config serial after (history ++ [record]) := by
  have isOwn : record.telemetryOf serial = some monotonic := by
    have named : (some (serial, monotonic)).filter (·.1 = serial) = some (serial, monotonic) :=
      Option.filter_some_pos (decide_eq_true rfl)
    rw [AvailabilityRecord.telemetryOf, sent, named]
    rfl
  obtain ⟨seen, fresh, said⟩ := view.telemetry_cases config monotonic isSet
  rw [← stepped] at seen fresh said
  dsimp only at seen fresh said
  constructor
  case seen => rw [seen, lastTelemetry_concat_some history isOwn]
  case published => exact fun _ => by rw [seen]; rfl
  case stale =>
    rw [fresh]
    exact iff_of_false Bool.false_ne_true (not_wentStale_concat_some history isOwn)
  case last =>
    rw [availabilityValues_concat, seen, fresh, Option.map_some, if_neg Bool.false_ne_true]
    rcases said with online | ⟨silent, wasFresh, wasPublished⟩
    · rw [List.getLast?_append, online]
      rfl
    · -- it was online before, as what was published was seen
      obtain ⟨before, wasSeen⟩ := Option.isSome_iff_exists.mp (follows.published wasPublished)
      rw [silent, List.append_nil, follows.last, wasSeen, wasFresh, Option.map_some,
        if_neg Bool.false_ne_true]
  case once =>
    rw [sinceTelemetry_concat_some history isOwn, fresh]
    rfl
  case own =>
    refine follows.own_concat fun other time isOther apart => ?_
    rw [sent, Option.some.injEq, Prod.mk.injEq] at isOther
    exact absurd isOther.1.symm apart

/-- A record that says nothing of the inverter. -/
theorem quiet (follows : Follows config serial view history)
    (other : record.telemetryOf serial = none)
    (silent : availabilities config.mqtt serial record.effects = [])
    (kept : WentStale config serial (history ++ [record]) → WentStale config serial history) :
    Follows config serial view (history ++ [record]) where
  seen := by
    rw [lastTelemetry_concat_none history other]
    exact follows.seen
  published := follows.published
  stale := follows.stale.trans
    ⟨fun before => (wentStale_concat_none history other).mpr (.inl before), kept⟩
  last := by
    rw [availabilityValues_concat, silent, List.append_nil]
    exact follows.last
  once := by
    rw [sinceTelemetry_concat_none history other, availabilityValues_concat, silent,
      List.append_nil]
    exact follows.once
  own := follows.own_concat fun _ _ _ _ => silent

/-- **The watchdog** looks at the inverter. -/
theorem check (follows : Follows config serial view history) {now : ℚ}
    (noTelemetry : record.telemetry = none) (ticked : record.tick = some now)
    (stepped : (after, availabilities config.mqtt serial record.effects) =
      view.check config now view.lastSeen) :
    Follows config serial after (history ++ [record]) := by
  have other : record.telemetryOf serial = none := by
    rw [AvailabilityRecord.telemetryOf, noTelemetry]
    rfl
  have stale : WentStale config serial (history ++ [record]) ↔ _ :=
    wentStale_concat_none history other
  rw [ticked] at stale
  cases seen : view.lastSeen with
  | none =>
    -- there is no telemetry that could be too old
    rw [seen] at stepped
    obtain ⟨rfl, silent⟩ := Prod.mk.inj stepped
    refine follows.quiet other silent fun nowStale => ?_
    rcases stale.mp nowStale with before | ⟨last, isLast, _⟩
    · exact before
    · rw [← follows.seen, seen] at isLast
      cases isLast
  | some last =>
    have isLast : lastTelemetry serial history = some last := follows.seen.symm.trans seen
    rw [seen, FreshnessView.check] at stepped
    by_cases marks : config.telemetryStaleAfterSeconds ≤ now - last ∧ view.isStale = false
    · rw [if_pos marks] at stepped
      obtain ⟨rfl, said⟩ := Prod.mk.inj stepped
      constructor
      case seen =>
        rw [lastTelemetry_concat_none history other]
        exact follows.seen
      case published => exact follows.published
      case stale => exact iff_of_true rfl (stale.mpr (.inr ⟨last, isLast, now, rfl, marks.1⟩))
      case last =>
        rw [availabilityValues_concat, said, List.getLast?_concat]
        exact (congrArg (Option.map fun _ => offlinePayload) seen).symm
      case once =>
        rw [sinceTelemetry_concat_none history other, availabilityValues_concat, said,
          List.count_append, follows.once, marks.2]
        rfl
      case own =>
        refine follows.own_concat fun from' time isTelemetry => ?_
        rw [noTelemetry] at isTelemetry
        cases isTelemetry
    · rw [if_neg marks] at stepped
      obtain ⟨rfl, silent⟩ := Prod.mk.inj stepped
      refine follows.quiet other silent fun nowStale => ?_
      rcases stale.mp nowStale with before | ⟨found, isFound, time, same, old⟩
      · exact before
      · -- it was stale already
        cases same
        obtain rfl := Option.some.inj (isLast.symm.trans isFound)
        rw [← follows.stale]
        by_contra fresh
        exact marks ⟨old, Bool.eq_false_iff.mpr fresh⟩

/-- Telemetry of another inverter. -/
theorem other (follows : Follows config serial view history)
    (noTelemetry : record.telemetryOf serial = none) (noTick : record.tick = none)
    (silent : availabilities config.mqtt serial record.effects = []) :
    Follows config serial view (history ++ [record]) := by
  refine follows.quiet noTelemetry silent fun nowStale => ?_
  rcases (wentStale_concat_none history noTelemetry).mp nowStale with before | ⟨_, _, now, ticks, _⟩
  · exact before
  · rw [noTick] at ticks
    cases ticks

end Follows

/-- What holds of the tables in every run. -/
structure Serves (config : TelemetryConfig) (serial : Text) (tables : TelemetryTables)
    (history : List AvailabilityRecord) : Prop where
  client : tables.publisher.client.isSome = true
  named : tables.lastTelemetryBySerial.get [] = none
  follows : Follows config serial (tables.freshness serial) history

section Steps

variable {config : TelemetryConfig} {serial : Text} {tables : TelemetryTables}
  {history : List AvailabilityRecord}

theorem Serves.telemetry (enabled : config.mqtt.enabled = true)
    (serves : Serves config serial tables history) (session : Nat) (clocks : ClockReading config)
    {telemetry : Telemetry} (named : telemetry.serial ≠ []) (words : List (Nat × Nat)) :
    let outcome := (publishTelemetry config session clocks.monotonic clocks.wall telemetry
      words).run tables
    Serves config serial outcome.state (history ++
      [⟨some (telemetry.serial, clocks.monotonic), none, outcome.effects⟩]) := by
  obtain ⟨client, isClient⟩ := Option.isSome_iff_exists.mp serves.client
  obtain ⟨kept, stepped⟩ := publishTelemetry_freshness enabled isClient session clocks.monotonic
    clocks.wall named words serial
  have unnamed := (publishTelemetry_freshness enabled isClient session clocks.monotonic clocks.wall
    named words []).2
  rw [if_neg (Ne.symm named)] at unnamed
  dsimp only at stepped ⊢
  rw [Outcome.freshness] at stepped unnamed
  refine ⟨by rw [kept]; rfl, ?_, ?_⟩
  · exact (congrArg FreshnessView.lastSeen (congrArg Prod.fst unnamed)).trans serves.named
  · by_cases same : serial = telemetry.serial
    · subst same
      rw [if_pos rfl] at stepped
      exact serves.follows.telemetry clocks.isSet rfl stepped
    · rw [if_neg same] at stepped
      obtain ⟨sameView, silent⟩ := Prod.mk.inj stepped
      rw [sameView]
      refine serves.follows.other ?_ rfl silent
      have apart : (some (telemetry.serial, clocks.monotonic)).filter (·.1 = serial) = none :=
        Option.filter_some_neg (by simpa using Ne.symm same)
      rw [AvailabilityRecord.telemetryOf, apart]
      rfl

theorem Serves.tick (enabled : config.mqtt.enabled = true)
    (serves : Serves config serial tables history) (now : ℚ) :
    let outcome := (markStaleTelemetry config now).run tables
    Serves config serial outcome.state (history ++ [⟨none, some now, outcome.effects⟩]) := by
  obtain ⟨client, isClient⟩ := Option.isSome_iff_exists.mp serves.client
  obtain ⟨samePublisher, stepped⟩ :=
    markStaleTelemetry_freshness enabled isClient serves.named now serial
  have unnamed := (markStaleTelemetry_freshness enabled isClient serves.named now []).2
  have absent : (tables.freshness []).lastSeen = none := serves.named
  rw [absent, FreshnessView.check] at unnamed
  dsimp only at stepped ⊢
  rw [Outcome.freshness] at stepped unnamed
  refine ⟨by rw [samePublisher]; exact serves.client, ?_, ?_⟩
  · exact (congrArg FreshnessView.lastSeen (congrArg Prod.fst unnamed)).trans serves.named
  · exact serves.follows.check rfl rfl stepped

/-- **One action.** -/
theorem serves_step (enabled : config.mqtt.enabled = true) {next : TelemetryTables}
    {action : AvailabilityAction config} {shown : List AvailabilityRecord}
    (serves : Serves config serial tables history)
    (stepped : availabilityMachine config tables action = some (next, shown)) :
    Serves config serial next (history ++ shown) := by
  cases action with
  | telemetry session clocks telemetry words =>
    by_cases unnamed : telemetry.serial = []
    · rw [availabilityMachine, publishTelemetry_unnamed session _ _ unnamed, if_pos unnamed]
        at stepped
      cases stepped
      exact ⟨serves.client, serves.named, serves.follows.other rfl rfl rfl⟩
    · rw [availabilityMachine, if_neg unnamed] at stepped
      cases stepped
      exact serves.telemetry enabled session clocks unnamed words
  | tick now =>
    cases stepped
    exact serves.tick enabled now
  | besides activity =>
    cases stepped
    rw [List.append_nil]
    exact ⟨activity.client_kept _ serves.client, serves.named, serves.follows⟩

theorem serves_start (enabled : config.mqtt.enabled = true) (serial : Text) :
    Serves config serial (.start config) [] := by
  have isClient : (TelemetryTables.start config).publisher.client = some 0 := by
    rw [TelemetryTables.start, connect, doWhen, if_pos enabled]
    rfl
  refine ⟨by rw [isClient]; rfl, rfl, ?_⟩
  constructor
  case seen => rfl
  case published => exact fun absurd' => absurd absurd' Bool.false_ne_true
  case stale =>
    refine iff_of_false Bool.false_ne_true ?_
    rintro ⟨_, _, _, member, _⟩
    cases member
  case last => rfl
  case once => rfl
  case own =>
    intro record member
    cases member

end Steps

/-! ### The result -/

/-- The availability of an inverter follows how fresh its telemetry is. -/
structure AvailabilityFollows (config : TelemetryConfig) (serial : Text) (tables : TelemetryTables)
    (history : List AvailabilityRecord) : Prop where
  /-- The last value is `offline` exactly where the inverter is among the stale ones. -/
  offline_iff : (availabilityValues config serial history).getLast? = some offlinePayload ↔
    serial ∈ tables.staleTelemetrySerials
  online_iff : (availabilityValues config serial history).getLast? = some onlinePayload ↔
    (lastTelemetry serial history).isSome = true ∧ serial ∉ tables.staleTelemetrySerials
  stale_iff : serial ∈ tables.staleTelemetrySerials ↔ WentStale config serial history
  /-- Since the last telemetry `offline` was published once, if at all. -/
  once : (availabilityValues config serial (sinceTelemetry serial history)).count offlinePayload =
    if serial ∈ tables.staleTelemetrySerials then 1 else 0
  /-- Telemetry of another inverter says nothing of this one. -/
  own : ∀ record ∈ history, ∀ other time, record.telemetry = some (other, time) →
    other ≠ serial → availabilities config.mqtt serial record.effects = []

theorem Serves.availabilityFollows {config : TelemetryConfig} {serial : Text}
    {tables : TelemetryTables} {history : List AvailabilityRecord}
    (serves : Serves config serial tables history) :
    AvailabilityFollows config serial tables history := by
  have follows := serves.follows
  have stale : (tables.freshness serial).isStale = true ↔ serial ∈ tables.staleTelemetrySerials :=
    decide_eq_true_iff
  have seenIfStale : serial ∈ tables.staleTelemetrySerials →
      (lastTelemetry serial history).isSome = true := by
    intro isStale
    obtain ⟨seen, isLast, _⟩ := follows.stale.mp (stale.mpr isStale)
    rw [isLast]
    rfl
  have last := follows.last
  rw [follows.seen] at last
  have apart : offlinePayload ≠ onlinePayload := by decide
  constructor
  case offline_iff =>
    rw [last]
    by_cases isStale : serial ∈ tables.staleTelemetrySerials
    · obtain ⟨seen, isSeen⟩ := Option.isSome_iff_exists.mp (seenIfStale isStale)
      rw [isSeen, if_pos (stale.mpr isStale)]
      exact iff_of_true rfl isStale
    · rw [if_neg fun now => isStale (stale.mp now)]
      refine iff_of_false (fun offline => ?_) isStale
      obtain ⟨_, _, same⟩ := Option.map_eq_some_iff.mp offline
      exact apart same.symm
  case online_iff =>
    rw [last]
    by_cases isStale : serial ∈ tables.staleTelemetrySerials
    · rw [if_pos (stale.mpr isStale)]
      refine iff_of_false (fun online => ?_) fun both => both.2 isStale
      obtain ⟨_, _, same⟩ := Option.map_eq_some_iff.mp online
      exact apart same
    · rw [if_neg fun now => isStale (stale.mp now), and_iff_left isStale]
      cases lastTelemetry serial history <;> simp
  case stale_iff => rw [← stale, follows.stale]
  case once =>
    rw [follows.once]
    exact if_congr stale rfl rfl
  case own => exact follows.own

/-- **Availability follows freshness** in every run, for every inverter. -/
theorem availability_follows_freshness {config : TelemetryConfig}
    (enabled : config.mqtt.enabled = true) {actions : List (AvailabilityAction config)}
    {tables : TelemetryTables} {trace : List AvailabilityRecord}
    (ran : run (availabilityMachine config) (.start config) actions = some (tables, trace))
    (serial : Text) : AvailabilityFollows config serial tables trace :=
  (run_invariant (serves_step enabled) (serves_start enabled serial) ran).availabilityFollows

/-- Telemetry is stale after five minutes. -/
def TelemetryConfig.fiveMinutes : TelemetryConfig where
  mqtt := ⟨"broker".toList, "foxess".toList, "homeassistant".toList, true, false⟩
  deviceNames := .empty
  telemetryStaleAfterSeconds := 300
  publishMinIntervalSeconds := 60

def ClockReading.at (seconds : Nat) : ClockReading .fiveMinutes where
  monotonic := seconds
  wall := 60 + seconds
  isSet := le_add_of_nonneg_right (Nat.cast_nonneg seconds)

/-- Telemetry stays away, comes again, and comes again too soon. -/
def resumedActions : List (AvailabilityAction .fiveMinutes) :=
  [.telemetry 0 (.at 0) idleTelemetry [], .tick 200, .tick 400, .tick 500,
    .telemetry 0 (.at 600) idleTelemetry [], .telemetry 0 (.at 610) idleTelemetry []]

theorem availability_follows_freshness_resumed :
    ∃ tables trace, run (availabilityMachine .fiveMinutes) (.start .fiveMinutes) resumedActions =
        some (tables, trace) ∧
      availabilityValues .fiveMinutes "A".toList trace =
        [onlinePayload, offlinePayload, onlinePayload, onlinePayload] ∧
      AvailabilityFollows .fiveMinutes "A".toList tables trace := by
  have check : (run (availabilityMachine .fiveMinutes) (.start .fiveMinutes) resumedActions).map
      (fun reached => availabilityValues .fiveMinutes "A".toList reached.2) =
        some [onlinePayload, offlinePayload, onlinePayload, onlinePayload] := by decide +kernel
  obtain ⟨⟨tables, trace⟩, ran, said⟩ := Option.map_eq_some_iff.mp check
  exact ⟨tables, trace, ran, said, availability_follows_freshness rfl ran "A".toList⟩

end FoxessGateway.Server
