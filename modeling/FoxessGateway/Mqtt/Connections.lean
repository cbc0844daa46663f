import FoxessGateway.Mqtt.Announced

/-! # Connections and subscriptions

The publisher with the clients that it has made.  A client that was replaced goes on calling back;
what the publisher says about its connection is about the client that it has now. -/

namespace FoxessGateway.Mqtt

open Protocol Effectful Action Runs

/-! ## Clients -/

/-- A client: its loop, its connection, and the topics it is subscribed to on the connection. -/
structure ClientState where
  loopRunning : Bool
  isUp : Bool
  subscribed : List Text

namespace ClientState

/-- A connection begins or ends, and what was subscribed on another is lost. -/
def turn (isUp : Bool) (client : ClientState) : ClientState :=
  { client with isUp, subscribed := [] }

/-- A client without a connection drops what it is given to subscribe to. -/
def subscribe (topic : Text) (client : ClientState) : ClientState :=
  if client.isUp = true then { client with subscribed := topic :: client.subscribed } else client

def unsubscribe (topic : Text) (client : ClientState) : ClientState :=
  { client with subscribed := client.subscribed.filter (· ≠ topic) }

def stopLoop (client : ClientState) : ClientState := { client with loopRunning := false }

end ClientState

/-- What a call does to the clients, where `starts` says whether the loop of a new one starts. -/
def applyCall (starts : Bool) (clients : List ClientState) (effect : MqttEffect) :
    List ClientState :=
  match effect.call with
  | .create => clients ++ [⟨starts, false, []⟩]
  | .subscribe topic => clients.modify effect.client (.subscribe topic)
  | .unsubscribe topic => clients.modify effect.client (.unsubscribe topic)
  | .loopStop => clients.modify effect.client .stopLoop
  | .disconnect => clients.modify effect.client (.turn false)
  | .publish _ => clients

def applyCalls (starts : Bool) (clients : List ClientState) (effects : List MqttEffect) :
    List ClientState :=
  effects.foldl (applyCall starts) clients

/-! ## The machine -/

inductive ConnectionAction where
  /-- The daemon connects; the loop of the new client starts, or connecting raises before. -/
  | connect (starts : Bool)
  | loopDies (client : Nat)
  | ensureConnected (starts : Bool)
  | teardown
  | register (serial : Text)
  | unregister (serial : Text)
  /-- `on_connect` of a client that was made, with a reason that is a success or not. -/
  | connected (client : Nat) (success : Bool)
  /-- `on_disconnect` of a client that was made. -/
  | disconnected (client : Nat)

/-- A client has called back, or the publisher has called a client. -/
inductive ConnectionEvent where
  | connected (client : Nat) (success : Bool)
  | disconnected (client : Nat)
  | called (effect : MqttEffect)

structure ConnectionWorld where
  publisher : MqttPublisher
  /-- In the order in which they were made. -/
  clients : List ClientState

namespace ConnectionWorld

def start : ConnectionWorld := ⟨.fresh, []⟩

/-- The publisher has run with the clients as given. -/
def after (starts : Bool) (clients : List ClientState)
    (outcome : Outcome MqttPublisher MqttEffect PyError Unit) : ConnectionWorld :=
  ⟨outcome.state, applyCalls starts clients outcome.effects⟩

/-- `loop_is_running` -/
def loopIsRunning (world : ConnectionWorld) : Bool :=
  (world.publisher.client.bind (world.clients[·]?)).any ClientState.loopRunning

end ConnectionWorld

namespace ConnectionAction

/-- What the publisher does. -/
def run (config : MqttConfig) (world : ConnectionWorld) : ConnectionAction → InMqtt Unit
  | connect _ => Mqtt.connect config world.clients.length
  | loopDies _ => pure ()
  | ensureConnected _ =>
    Mqtt.ensureConnected config world.loopIsRunning world.clients.length
  | teardown => teardownClient
  | register serial => registerActivePowerLimitHandler config serial
  | unregister serial => unregisterActivePowerLimitHandler config serial
  | connected client success => onConnect config client success
  | disconnected client => onDisconnect client

/-- Whether the loop of a client that is made starts. -/
def starts : ConnectionAction → Bool
  | connect starts | ensureConnected starts => starts
  | _ => false

/-- The clients when the publisher begins: what a callback tells has happened before it. -/
def clientsAt (clients : List ClientState) : ConnectionAction → Option (List ClientState)
  | loopDies client => some (clients.modify client .stopLoop)
  | connected client success =>
    if client < clients.length then some (clients.modify client (.turn success)) else none
  | disconnected client =>
    if client < clients.length then some (clients.modify client (.turn false)) else none
  | _ => some clients

/-- The callback that the action is. -/
def callback : ConnectionAction → List ConnectionEvent
  | connected client success => [.connected client success]
  | disconnected client => [.disconnected client]
  | _ => []

end ConnectionAction

def connectionMachine (config : MqttConfig) :
    Machine ConnectionWorld ConnectionAction ConnectionEvent :=
  fun world action =>
  match action.clientsAt world.clients with
  | none => none
  | some clients =>
    let outcome := (action.run config world).run world.publisher
    some (.after action.starts clients outcome, action.callback ++ outcome.effects.map .called)

def ConnectionEvent.isCallbackOf (client : Nat) : ConnectionEvent → Bool
  | connected other _ | disconnected other => other = client
  | called _ => false

/-- The most recent callback of the client. -/
def lastCallback (client : Nat) (history : List ConnectionEvent) : Option ConnectionEvent :=
  (history.filter (·.isCallbackOf client)).getLast?

/-! ## Exact runs -/

section Operations

variable {config : MqttConfig} {publisher : MqttPublisher} {client : Nat}

theorem connect_run (enabled : config.enabled = true) :
    (connect config client).run publisher =
      ⟨{ publisher with mqttConnected := false, client := some client }, [⟨client, .create⟩],
        .ok ()⟩ := by
  rw [connect, doWhen, if_pos enabled, run_modify_bind, callClient_run rfl]

theorem connect_run_disabled (disabled : config.enabled ≠ true) :
    (connect config client).run publisher = ⟨publisher, [], .ok ()⟩ := by
  rw [connect, doWhen, if_neg disabled]
  rfl

/-- The publisher after `_teardown_client`. -/
def MqttPublisher.tornDown (publisher : MqttPublisher) : MqttPublisher :=
  { publisher with
    client := none
    mqttConnected := false
    announced := ∅
    activePowerLimitAnnounced := ∅ }

theorem teardownClient_run (isClient : publisher.client = some client) :
    teardownClient.run publisher =
      ⟨publisher.tornDown, [⟨client, .loopStop⟩, ⟨client, .disconnect⟩], .ok ()⟩ := by
  generalize isOffline : { publisher with mqttConnected := false } = offline
  have still : offline.client = some client := by
    rw [← isOffline]
    exact isClient
  rw [teardownClient, run_get_bind, isClient]
  dsimp only
  rw [run_modify_bind, isOffline, run_bind_ok (by rw [callClient_run still]),
    callClient_run still]
  dsimp only
  rw [run_bind_ok (by rw [callClient_run still]), callClient_run still, ← isOffline]
  rfl

theorem teardownClient_run_none (noClient : publisher.client = none) :
    teardownClient.run publisher = ⟨publisher, [], .ok ()⟩ := by
  rw [teardownClient, run_get_bind, noClient]
  rfl

theorem teardownClient_returns (publisher : MqttPublisher) :
    (teardownClient.run publisher).value = .ok () := by
  cases isClient : publisher.client with
  | none => rw [teardownClient_run_none isClient]
  | some client => rw [teardownClient_run isClient]

/-- The calls by which topics are subscribed to. -/
def subscribes (client : Nat) (topics : List Text) : List MqttEffect :=
  topics.map fun topic => ⟨client, .subscribe topic⟩

theorem subscribeAll_run (isClient : publisher.client = some client) (topics : List Text) :
    (subscribeAll topics).run publisher = ⟨publisher, subscribes client topics, .ok ()⟩ := by
  induction topics with
  | nil => rfl
  | cons topic topics inductionHypothesis =>
    rw [subscribeAll, run_bind_ok (by rw [callClient_run isClient]), callClient_run isClient]
    dsimp only
    rw [inductionHypothesis]
    rfl

theorem onConnect_run (isClient : publisher.client = some client) :
    (onConnect config client true).run publisher =
      ⟨{ publisher with mqttConnected := true },
        publishes client [config.gatewayDiscovery, config.online] ++
          subscribes client publisher.commandTopics, .ok ()⟩ := by
  generalize isConnected : { publisher with mqttConnected := true } = connected
  have now : connected.client = some client := by
    rw [← isConnected]
    exact isClient
  have sends (message : Message) : (sendMessage message).run connected =
      ⟨connected, [⟨client, .publish message⟩], .ok ()⟩ := callClient_run now _
  rw [onConnect, run_get_bind, doWhen, if_pos isClient, run_modify_bind, doWhen, if_pos rfl,
    isConnected, run_bind_ok (by rw [sends]), sends]
  dsimp only
  rw [run_bind_ok (by rw [sends]), sends]
  dsimp only
  rw [subscribeAll_run now]
  rfl

theorem onConnect_run_failed (isClient : publisher.client = some client) :
    (onConnect config client false).run publisher =
      ⟨{ publisher with mqttConnected := false }, [], .ok ()⟩ := by
  rw [onConnect, run_get_bind, doWhen, if_pos isClient]
  rfl

theorem onConnect_run_stale (isOther : publisher.client ≠ some client) (success : Bool) :
    (onConnect config client success).run publisher = ⟨publisher, [], .ok ()⟩ := by
  rw [onConnect, run_get_bind, doWhen, if_neg isOther]
  rfl

theorem onDisconnect_run (isClient : publisher.client = some client) :
    (onDisconnect client).run publisher =
      ⟨{ publisher with
        mqttConnected := false, announced := ∅, activePowerLimitAnnounced := ∅ }, [],
        .ok ()⟩ := by
  rw [onDisconnect, run_get_bind, doWhen, if_pos isClient]
  rfl

theorem onDisconnect_run_stale (isOther : publisher.client ≠ some client) :
    (onDisconnect client).run publisher = ⟨publisher, [], .ok ()⟩ := by
  rw [onDisconnect, run_get_bind, doWhen, if_neg isOther]
  rfl

/-- The watchdog publishes that the gateway is online, or takes another client, or does nothing. -/
theorem ensureConnected_cases (config : MqttConfig) (running : Bool) (client : Nat)
    (publisher : MqttPublisher) :
    (ensureConnected config running client).run publisher = ⟨publisher, [], .ok ()⟩ ∨
    (∃ current, publisher.client = some current ∧ publisher.mqttConnected = true ∧
      (ensureConnected config running client).run publisher =
        ⟨publisher, publishes current [config.online], .ok ()⟩) ∨
    (ensureConnected config running client).run publisher =
      (teardownClient >>= fun _ => connect config client).run publisher := by
  rw [ensureConnected, doWhen]
  split
  · rw [run_get_bind]
    split
    · rename_i isRunning
      obtain ⟨current, isClient⟩ := Option.isSome_iff_exists.mp isRunning.1
      rw [doWhen]
      split
      · rename_i isConnected
        exact .inr (.inl ⟨current, isClient, isConnected, callClient_run isClient _⟩)
      · exact .inl rfl
    · exact .inr (.inr rfl)
  · exact .inl rfl

end Operations

/-! ## Subscriptions -/

/-- The client has a connection, and is subscribed on it to the topics. -/
def SubscribedOn (clients : List ClientState) (client : Nat) (topics : List Text) : Prop :=
  ∃ state, clients[client]? = some state ∧ state.isUp = true ∧
    ∀ topic ∈ topics, topic ∈ state.subscribed

section Subscriptions

variable {clients : List ClientState} {client : Nat} {topics : List Text} {starts : Bool}

theorem SubscribedOn.of_subset {fewer : List Text} (subscribed : SubscribedOn clients client topics)
    (subset : fewer ⊆ topics) : SubscribedOn clients client fewer := by
  obtain ⟨state, isState, isUp, all⟩ := subscribed
  exact ⟨state, isState, isUp, fun topic member => all topic (subset member)⟩

theorem SubscribedOn.subscribe (subscribed : SubscribedOn clients client topics) (topic : Text) :
    SubscribedOn (applyCall starts clients ⟨client, .subscribe topic⟩) client
      (topic :: topics) := by
  obtain ⟨state, isState, isUp, all⟩ := subscribed
  refine ⟨state.subscribe topic, ?_, ?_, ?_⟩
  · simp [applyCall, isState]
  · simp [ClientState.subscribe, isUp]
  · intro other member
    rw [ClientState.subscribe, if_pos isUp]
    rcases List.mem_cons.mp member with rfl | earlier
    · exact List.mem_cons_self
    · exact List.mem_cons_of_mem _ (all other earlier)

theorem SubscribedOn.unsubscribe (subscribed : SubscribedOn clients client topics) {topic : Text}
    (missing : topic ∉ topics) :
    SubscribedOn (applyCall starts clients ⟨client, .unsubscribe topic⟩) client topics := by
  obtain ⟨state, isState, isUp, all⟩ := subscribed
  refine ⟨state.unsubscribe topic, ?_, isUp, ?_⟩
  · simp [applyCall, isState]
  · intro other member
    have apart : other ≠ topic := fun same => missing (same ▸ member)
    exact List.mem_filter.mpr ⟨all other member, by simpa using apart⟩

/-- What happens to a client that changes neither its connection nor its subscriptions. -/
theorem SubscribedOn.modify (subscribed : SubscribedOn clients client topics)
    {change : ClientState → ClientState} {other : Nat}
    (harmless : other = client → ∀ state, (change state).isUp = state.isUp ∧
      (change state).subscribed = state.subscribed) :
    SubscribedOn (clients.modify other change) client topics := by
  obtain ⟨state, isState, isUp, all⟩ := subscribed
  by_cases same : other = client
  · obtain ⟨sameUp, sameTopics⟩ := harmless same state
    refine ⟨change state, by simp [same, isState], sameUp.trans isUp, ?_⟩
    rw [sameTopics]
    exact all
  · exact ⟨state, by simp [same, isState], isUp, all⟩

/-- A connection that begins has no subscriptions. -/
theorem subscribedOn_turn (isMade : client < clients.length) :
    SubscribedOn (clients.modify client (.turn true)) client [] := by
  refine ⟨clients[client].turn true, ?_, rfl, fun _ member => absurd member List.not_mem_nil⟩
  simp [List.getElem?_eq_getElem isMade]

theorem applyCalls_publishes (messages : List Message) :
    applyCalls starts clients (publishes client messages) = clients := by
  induction messages with
  | nil => rfl
  | cons message messages inductionHypothesis => exact inductionHypothesis

theorem applyCalls_append (effects later : List MqttEffect) :
    applyCalls starts clients (effects ++ later) =
      applyCalls starts (applyCalls starts clients effects) later := List.foldl_append

theorem SubscribedOn.subscribes {known : List Text}
    (subscribed : SubscribedOn clients client known) :
    SubscribedOn (applyCalls starts clients (subscribes client topics)) client
      (topics ++ known) := by
  induction topics generalizing clients known with
  | nil => exact subscribed
  | cons topic topics inductionHypothesis =>
    have later : SubscribedOn (applyCalls starts clients (subscribes client (topic :: topics)))
        client (topics ++ topic :: known) := inductionHypothesis (subscribed.subscribe topic)
    exact later.of_subset List.perm_middle.symm.subset

theorem applyCalls_subscribes_length :
    (applyCalls starts clients (subscribes client topics)).length = clients.length := by
  induction topics generalizing clients with
  | nil => rfl
  | cons topic topics inductionHypothesis =>
    exact inductionHypothesis.trans (List.length_modify _ _ _)

end Subscriptions

/-! ## The most recent callback -/

theorem lastCallback_append (client : Nat) (history later : List ConnectionEvent) :
    lastCallback client (history ++ later) =
      (lastCallback client later).or (lastCallback client history) := by
  rw [lastCallback, List.filter_append, List.getLast?_append]
  rfl

theorem lastCallback_called (client : Nat) (effects : List MqttEffect) :
    lastCallback client (effects.map .called) = none := by
  rw [lastCallback, List.getLast?_eq_none_iff, List.filter_eq_nil_iff]
  intro event member
  obtain ⟨effect, _, rfl⟩ := List.mem_map.mp member
  exact Bool.false_ne_true

/-! ## The invariant -/

/-- What links the publisher, its client and the callbacks: `last` gives the most recent callback
of each client. -/
structure ConnectionWorld.Linked (config : MqttConfig) (last : Nat → Option ConnectionEvent)
    (world : ConnectionWorld) : Prop where
  enabled : world.publisher.client ≠ none → config.enabled = true
  made : ∀ client, world.publisher.client = some client → client < world.clients.length
  /-- A client that was not made has not called back. -/
  silent : ∀ client, world.clients.length ≤ client → last client = none
  connected : world.publisher.mqttConnected = true ↔
    ∃ client, world.publisher.client = some client ∧ last client = some (.connected client true)
  nodup : world.publisher.commandTopics.Nodup
  subscribed : world.publisher.mqttConnected = true →
    ∀ client, world.publisher.client = some client →
      SubscribedOn world.clients client world.publisher.commandTopics

namespace ConnectionWorld

variable {config : MqttConfig} {last : Nat → Option ConnectionEvent} {publisher : MqttPublisher}
  {clients : List ClientState} {client : Nat}

/-- Nothing links a publisher without a connection to its client. -/
theorem Linked.of_offline (offline : publisher.mqttConnected = false)
    (unheard : ∀ client, publisher.client = some client →
      last client ≠ some (.connected client true))
    (enabled : publisher.client ≠ none → config.enabled = true)
    (made : ∀ client, publisher.client = some client → client < clients.length)
    (silent : ∀ client, clients.length ≤ client → last client = none)
    (nodup : publisher.commandTopics.Nodup) : Linked config last ⟨publisher, clients⟩ where
  enabled := enabled
  made := made
  silent := silent
  connected := by
    refine iff_of_false (fun connected => ?_) ?_
    · exact Bool.false_ne_true (offline.symm.trans connected)
    · rintro ⟨client, isClient, heard⟩
      exact unheard client isClient heard
  nodup := nodup
  subscribed connected := absurd (offline.symm.trans connected) Bool.false_ne_true

theorem Linked.connect (linked : Linked config last ⟨publisher, clients⟩) (starts : Bool) :
    Linked config last
      (after starts clients ((Mqtt.connect config clients.length).run publisher)) := by
  by_cases enabled : config.enabled = true
  · rw [connect_run enabled]
    apply Linked.of_offline rfl
    case unheard =>
      -- the new client has not called back
      rintro client ⟨⟩ heard
      rw [linked.silent _ le_rfl] at heard
      cases heard
    case enabled => exact fun _ => enabled
    case made =>
      rintro client ⟨⟩
      simp [applyCalls, applyCall]
    case silent =>
      intro client later
      apply linked.silent
      simp only [applyCalls, applyCall, List.foldl_cons, List.foldl_nil, List.length_append]
        at later
      exact Nat.le_of_add_right_le later
    case nodup => exact linked.nodup
  · rw [connect_run_disabled enabled]
    exact linked

theorem Linked.teardown (linked : Linked config last ⟨publisher, clients⟩) (starts : Bool) :
    (applyCalls starts clients (teardownClient.run publisher).effects).length = clients.length ∧
      Linked config last (after starts clients (teardownClient.run publisher)) := by
  cases isClient : publisher.client with
  | none =>
    rw [teardownClient_run_none isClient]
    exact ⟨rfl, linked⟩
  | some client =>
    rw [teardownClient_run isClient]
    have sameLength : (applyCalls starts clients
        [⟨client, .loopStop⟩, ⟨client, .disconnect⟩]).length = clients.length := by
      simp [applyCalls, applyCall]
    refine ⟨sameLength, ?_⟩
    apply Linked.of_offline rfl
    case unheard => rintro client ⟨⟩
    case enabled => exact fun some => absurd rfl some
    case made => rintro client ⟨⟩
    case silent =>
      intro client later
      exact linked.silent client (sameLength ▸ later)
    case nodup => exact linked.nodup

theorem Linked.ensureConnected (linked : Linked config last ⟨publisher, clients⟩)
    (running starts : Bool) :
    Linked config last (after starts clients
      ((Mqtt.ensureConnected config running clients.length).run publisher)) := by
  obtain idle | ⟨current, _, _, published⟩ | rebuilt :=
    ensureConnected_cases config running clients.length publisher
  · rw [idle]
    exact linked
  · rw [published, after, applyCalls_publishes]
    exact linked
  · obtain ⟨sameLength, tornDown⟩ := linked.teardown starts
    have connected := tornDown.connect starts
    rw [sameLength] at connected
    rw [rebuilt, run_bind_ok (teardownClient_returns publisher), after, applyCalls_append]
    exact connected

/-- The client is the same, and what it is subscribed to follows the topics. -/
theorem Linked.retopic (linked : Linked config last ⟨publisher, clients⟩) {topics : List Text}
    {later : List ClientState} (sameLength : later.length = clients.length) (nodup : topics.Nodup)
    (subscribed : ∀ client, publisher.client = some client →
      SubscribedOn clients client publisher.commandTopics → SubscribedOn later client topics) :
    Linked config last ⟨{ publisher with commandTopics := topics }, later⟩ where
  enabled := linked.enabled
  made client isClient := sameLength ▸ linked.made client isClient
  silent client unmade := linked.silent client (sameLength ▸ unmade)
  connected := linked.connected
  nodup := nodup
  subscribed connected client isClient :=
    subscribed client isClient (linked.subscribed connected client isClient)

/-- There is a client only where there is a broker, so the client is called. -/
theorem callClient_run_linked (enabled : publisher.client ≠ none → config.enabled = true)
    (call : ClientCall) :
    (doWhen (config.enabled = true) (callClient call)).run publisher =
      ⟨publisher, publisher.client.toList.map fun client => ⟨client, call⟩, .ok ()⟩ := by
  rw [doWhen]
  cases isClient : publisher.client with
  | none =>
    split
    · rw [callClient, run_get_bind, isClient]
      rfl
    · rfl
  | some client =>
    rw [if_pos (enabled (by rw [isClient]; exact Option.some_ne_none client)),
      callClient_run isClient]
    rfl

/-- A call that the client takes for the topics, where it has a connection. -/
theorem Linked.tell (linked : Linked config last ⟨publisher, clients⟩) (starts : Bool)
    {call : ClientCall} {topics : List Text} (nodup : topics.Nodup)
    (sameLength : ∀ client, (applyCall starts clients ⟨client, call⟩).length = clients.length)
    (subscribed : ∀ client, SubscribedOn clients client publisher.commandTopics →
      SubscribedOn (applyCall starts clients ⟨client, call⟩) client topics) :
    Linked config last (after starts clients
      ((doWhen (config.enabled = true) (callClient call)).run
        { publisher with commandTopics := topics })) := by
  have enabled : { publisher with commandTopics := topics }.client ≠ none →
      config.enabled = true := linked.enabled
  rw [callClient_run_linked enabled]
  refine linked.retopic ?_ nodup fun client isClient taken => ?_
  · dsimp only
    cases publisher.client with
    | none => rfl
    | some client => exact sameLength client
  · dsimp only
    rw [isClient]
    exact subscribed client taken

theorem Linked.register (linked : Linked config last ⟨publisher, clients⟩) (starts : Bool)
    (serial : Text) :
    Linked config last
      (after starts clients ((registerActivePowerLimitHandler config serial).run publisher)) := by
  rw [registerActivePowerLimitHandler, run_modify_bind]
  by_cases known : activePowerLimitCommandTopic config.topicPrefix serial ∈ publisher.commandTopics
  · rw [if_pos known]
    apply linked.tell starts linked.nodup
    · exact fun client => List.length_modify _ _ _
    · intro client subscribed
      exact (subscribed.subscribe _).of_subset (List.subset_cons_self _ _)
  · rw [if_neg known]
    have nodup := linked.nodup.concat known
    rw [List.concat_eq_append] at nodup
    apply linked.tell starts nodup
    · exact fun client => List.length_modify _ _ _
    · intro client subscribed
      refine (subscribed.subscribe _).of_subset ?_
      exact (List.perm_append_singleton _ _).subset

theorem Linked.unregister (linked : Linked config last ⟨publisher, clients⟩) (starts : Bool)
    (serial : Text) :
    Linked config last
      (after starts clients ((unregisterActivePowerLimitHandler config serial).run publisher)) := by
  rw [unregisterActivePowerLimitHandler, run_get_bind, doWhen]
  split
  · rw [run_modify_bind]
    apply linked.tell starts (linked.nodup.erase _)
    · exact fun client => List.length_modify _ _ _
    · intro client subscribed
      -- a topic stands in the list once, so none that is left loses its subscription
      exact (subscribed.of_subset List.erase_subset).unsubscribe linked.nodup.not_mem_erase
  · exact linked

/-- `last` when one more callback has come. -/
def heard (event : ConnectionEvent) (last : Nat → Option ConnectionEvent) (client : Nat) :
    Option ConnectionEvent :=
  if event.isCallbackOf client = true then some event else last client

/-- A callback of a client that was replaced. -/
theorem Linked.stale (linked : Linked config last ⟨publisher, clients⟩)
    {event : ConnectionEvent} (isAbout : ∀ other, event.isCallbackOf other = true → other = client)
    (isOther : publisher.client ≠ some client) (isMade : client < clients.length)
    (change : ClientState → ClientState) :
    Linked config (heard event last) ⟨publisher, clients.modify client change⟩ := by
  have unheard : ∀ other, other ≠ client → heard event last other = last other := by
    intro other apart
    rw [heard, if_neg fun isCallback => apart (isAbout other isCallback)]
  have apart : ∀ other, publisher.client = some other → other ≠ client := by
    rintro other isCurrent rfl
    exact isOther isCurrent
  constructor
  case enabled => exact linked.enabled
  case made =>
    intro other isCurrent
    rw [List.length_modify]
    exact linked.made other isCurrent
  case silent =>
    intro other unmade
    rw [List.length_modify] at unmade
    rw [unheard other (Nat.ne_of_gt (isMade.trans_le unmade))]
    exact linked.silent other unmade
  case connected =>
    rw [linked.connected]
    refine exists_congr fun other => and_congr_right fun isCurrent => ?_
    rw [unheard other (apart other isCurrent)]
  case nodup => exact linked.nodup
  case subscribed =>
    intro connected other isCurrent
    refine (linked.subscribed connected other isCurrent).modify fun same => ?_
    exact absurd same.symm (apart other isCurrent)

/-- The client has no connection any more, or has got none. -/
theorem Linked.lost (linked : Linked config last ⟨publisher, clients⟩)
    {event : ConnectionEvent} (isOne : event.isCallbackOf client = true)
    (isLoss : event ≠ .connected client true)
    (isAbout : ∀ other, event.isCallbackOf other = true → other = client)
    (isClient : publisher.client = some client) (announced powerLimitAnnounced : Finset Text) :
    Linked config (heard event last)
      ⟨{ publisher with
        mqttConnected := false
        announced := announced
        activePowerLimitAnnounced := powerLimitAnnounced },
        clients.modify client (.turn false)⟩ := by
  have isMade := linked.made client isClient
  apply Linked.of_offline rfl
  case unheard =>
    intro other isCurrent
    obtain rfl : client = other := Option.some.inj (isClient.symm.trans isCurrent)
    rw [heard, if_pos isOne]
    exact fun same => isLoss (Option.some.inj same)
  case enabled => exact linked.enabled
  case made =>
    intro other isCurrent
    rw [List.length_modify]
    exact linked.made other isCurrent
  case silent =>
    intro other unmade
    rw [List.length_modify] at unmade
    rw [heard, if_neg]
    · exact linked.silent other unmade
    · intro isCallback
      exact absurd (isAbout other isCallback) (Nat.ne_of_gt (isMade.trans_le unmade))
  case nodup => exact linked.nodup

theorem Linked.loopDies (linked : Linked config last ⟨publisher, clients⟩) (client : Nat) :
    Linked config last ⟨publisher, clients.modify client .stopLoop⟩ :=
  linked.retopic (List.length_modify _ _ _) linked.nodup fun _ _ subscribed =>
    subscribed.modify fun _ _ => ⟨rfl, rfl⟩

theorem Linked.onConnect (linked : Linked config last ⟨publisher, clients⟩) (starts : Bool)
    (isMade : client < clients.length) (success : Bool) :
    Linked config (heard (.connected client success) last)
      (after starts (clients.modify client (.turn success))
        ((Mqtt.onConnect config client success).run publisher)) := by
  have isAbout : ∀ other, (ConnectionEvent.connected client success).isCallbackOf other = true →
      other = client := fun other isCallback => (of_decide_eq_true isCallback).symm
  have isOne : (ConnectionEvent.connected client success).isCallbackOf client = true :=
    decide_eq_true rfl
  by_cases isClient : publisher.client = some client
  · cases success with
    | false =>
      rw [onConnect_run_failed isClient]
      exact linked.lost isOne (by simp) isAbout isClient _ _
    | true =>
      rw [onConnect_run isClient, after, applyCalls_append, applyCalls_publishes]
      have sameLength : (applyCalls starts (clients.modify client (.turn true))
          (subscribes client publisher.commandTopics)).length = clients.length := by
        rw [applyCalls_subscribes_length, List.length_modify]
      constructor
      case enabled => exact linked.enabled
      case made => exact fun other isCurrent => sameLength ▸ linked.made other isCurrent
      case silent =>
        intro other unmade
        rw [sameLength] at unmade
        rw [heard, if_neg]
        · exact linked.silent other unmade
        · intro isCallback
          exact absurd (isAbout other isCallback) (Nat.ne_of_gt (isMade.trans_le unmade))
      case connected => exact iff_of_true rfl ⟨client, isClient, if_pos isOne⟩
      case nodup => exact linked.nodup
      case subscribed =>
        -- the new connection is subscribed to every topic that there is
        intro _ other isCurrent
        obtain rfl : client = other := Option.some.inj (isClient.symm.trans isCurrent)
        exact (subscribedOn_turn isMade).subscribes.of_subset (List.subset_append_left _ _)
  · rw [onConnect_run_stale isClient]
    exact linked.stale isAbout isClient isMade _

theorem Linked.onDisconnect (linked : Linked config last ⟨publisher, clients⟩) (starts : Bool)
    (isMade : client < clients.length) :
    Linked config (heard (.disconnected client) last)
      (after starts (clients.modify client (.turn false))
        ((Mqtt.onDisconnect client).run publisher)) := by
  have isAbout : ∀ other, (ConnectionEvent.disconnected client).isCallbackOf other = true →
      other = client := fun other isCallback => (of_decide_eq_true isCallback).symm
  have isOne : (ConnectionEvent.disconnected client).isCallbackOf client = true :=
    decide_eq_true rfl
  by_cases isClient : publisher.client = some client
  · rw [onDisconnect_run isClient]
    exact linked.lost isOne (by simp) isAbout isClient _ _
  · rw [onDisconnect_run_stale isClient]
    exact linked.stale isAbout isClient isMade _

/-! ## Steps and runs -/

/-- The invariant, with the callbacks read off the history. -/
def LinkedAfter (config : MqttConfig) (world : ConnectionWorld)
    (history : List ConnectionEvent) : Prop :=
  world.Linked config fun client => lastCallback client history

theorem linkedAfter_start (config : MqttConfig) : LinkedAfter config start [] where
  enabled some := absurd rfl some
  made := by
    rintro client ⟨⟩
  silent _ _ := rfl
  connected := by
    refine iff_of_false Bool.false_ne_true ?_
    rintro ⟨client, ⟨⟩, _⟩
  nodup := List.nodup_nil
  subscribed connected := absurd connected Bool.false_ne_true

/-- Calls are no callbacks. -/
theorem linkedAfter_called {world : ConnectionWorld} {history : List ConnectionEvent}
    (linked : LinkedAfter config world history) (effects : List MqttEffect) :
    LinkedAfter config world (history ++ effects.map .called) := by
  have same : (fun client => lastCallback client (history ++ effects.map .called)) =
      fun client => lastCallback client history := by
    funext client
    rw [lastCallback_append, lastCallback_called, Option.none_or]
  rwa [LinkedAfter, same]

theorem linkedAfter_heard {world : ConnectionWorld} {history : List ConnectionEvent}
    {event : ConnectionEvent}
    (linked : world.Linked config (heard event fun client => lastCallback client history)) :
    LinkedAfter config world (history ++ [event]) := by
  have same : (fun client => lastCallback client (history ++ [event])) =
      heard event fun client => lastCallback client history := by
    funext client
    rw [lastCallback_append, heard, lastCallback, List.filter_cons]
    split <;> rfl
  rwa [LinkedAfter, same]

theorem linked_step {world next : ConnectionWorld} {action : ConnectionAction}
    {history shown : List ConnectionEvent} (linked : LinkedAfter config world history)
    (stepped : connectionMachine config world action = some (next, shown)) :
    LinkedAfter config next (history ++ shown) := by
  cases action with
  | connect starts =>
    cases stepped
    exact linkedAfter_called (linked.connect starts) _
  | loopDies client =>
    cases stepped
    exact linkedAfter_called (linked.loopDies client) _
  | ensureConnected starts =>
    cases stepped
    exact linkedAfter_called (linked.ensureConnected _ starts) _
  | teardown =>
    cases stepped
    exact linkedAfter_called (linked.teardown false).2 _
  | register serial =>
    cases stepped
    exact linkedAfter_called (linked.register false serial) _
  | unregister serial =>
    cases stepped
    exact linkedAfter_called (linked.unregister false serial) _
  | connected client success =>
    rw [connectionMachine, ConnectionAction.clientsAt] at stepped
    split at stepped
    · cases stepped
    · rename_i clients begins
      obtain ⟨isMade, same⟩ := Option.ite_none_right_eq_some.mp begins
      cases same
      cases stepped
      have taken := linkedAfter_heard (linked.onConnect false isMade success)
      rw [ConnectionAction.callback, ← List.append_assoc]
      exact linkedAfter_called taken _
  | disconnected client =>
    rw [connectionMachine, ConnectionAction.clientsAt] at stepped
    split at stepped
    · cases stepped
    · rename_i clients begins
      obtain ⟨isMade, same⟩ := Option.ite_none_right_eq_some.mp begins
      cases same
      cases stepped
      have taken := linkedAfter_heard (linked.onDisconnect false isMade)
      rw [ConnectionAction.callback, ← List.append_assoc]
      exact linkedAfter_called taken _

/-- What the publisher says about its connection is right. -/
structure SpeaksTrue (config : MqttConfig) (world : ConnectionWorld)
    (history : List ConnectionEvent) : Prop where
  connected_iff : world.publisher.mqttConnected = true ↔
    ∃ client, world.publisher.client = some client ∧
      lastCallback client history = some (.connected client true)
  /-- The watchdog publishes that the gateway is online only where it is connected. -/
  watchdog : ∀ starts next shown,
    connectionMachine config world (.ensureConnected starts) = some (next, shown) →
      ∀ client, .called ⟨client, .publish config.online⟩ ∈ shown →
        world.publisher.client = some client ∧ world.publisher.mqttConnected = true
  subscribed : world.publisher.mqttConnected = true →
    ∃ client state, world.publisher.client = some client ∧
      world.clients[client]? = some state ∧ state.isUp = true ∧
      ∀ topic ∈ world.publisher.commandTopics, topic ∈ state.subscribed

/-- The watchdog publishes nothing while it takes another client. -/
theorem rebuild_silent {client next : Nat} {message : Message} :
    ⟨client, .publish message⟩ ∉
      ((teardownClient >>= fun _ => Mqtt.connect config next).run publisher).effects := by
  have connects (before : MqttPublisher) :
      ⟨client, .publish message⟩ ∉ ((Mqtt.connect config next).run before).effects := by
    by_cases enabled : config.enabled = true
    · rw [connect_run enabled]
      simp
    · rw [connect_run_disabled enabled]
      simp
  cases isClient : publisher.client with
  | none =>
    rw [run_bind_ok (by rw [teardownClient_run_none isClient]), teardownClient_run_none isClient]
    exact connects _
  | some current =>
    rw [run_bind_ok (by rw [teardownClient_run isClient]), teardownClient_run isClient]
    intro member
    rcases List.mem_append.mp member with tornDown | connected
    · simp at tornDown
    · exact connects _ connected

theorem watchdog_online {world next : ConnectionWorld} {starts : Bool}
    {shown : List ConnectionEvent}
    (stepped : connectionMachine config world (.ensureConnected starts) = some (next, shown))
    (published : .called ⟨client, .publish config.online⟩ ∈ shown) :
    world.publisher.client = some client ∧ world.publisher.mqttConnected = true := by
  cases stepped
  obtain ⟨effect, member, same⟩ := List.mem_map.mp published
  cases same
  obtain idle | ⟨current, isClient, isConnected, refreshed⟩ | rebuilt := ensureConnected_cases
    config world.loopIsRunning world.clients.length world.publisher
  · rw [ConnectionAction.run, idle] at member
    exact absurd member List.not_mem_nil
  · rw [ConnectionAction.run, refreshed] at member
    obtain ⟨_, _, same⟩ := List.mem_map.mp member
    cases same
    exact ⟨isClient, isConnected⟩
  · rw [ConnectionAction.run, rebuilt] at member
    exact absurd member rebuild_silent

/-- **Connection state and subscriptions** in every run of connections, callbacks of any client,
the watchdog and handlers. -/
theorem connection_speaksTrue {config : MqttConfig} {actions : List ConnectionAction}
    {world : ConnectionWorld} {trace : List ConnectionEvent}
    (ran : Runs.run (connectionMachine config) .start actions = some (world, trace)) :
    SpeaksTrue config world trace := by
  have linked : LinkedAfter config world trace :=
    run_invariant linked_step (linkedAfter_start config) ran
  constructor
  case connected_iff => exact linked.connected
  case watchdog => exact fun _ _ _ stepped _ published => watchdog_online stepped published
  case subscribed =>
    intro connected
    obtain ⟨client, isClient, _⟩ := linked.connected.mp connected
    obtain ⟨state, isState, isUp, subscribed⟩ := linked.subscribed connected client isClient
    exact ⟨client, state, isClient, isState, isUp, subscribed⟩

/-- A client is replaced and goes on calling back. -/
def replacedActions : List ConnectionAction :=
  [.connect true, .connected 0 true, .register "A".toList, .loopDies 0, .ensureConnected true,
    .register "B".toList, .connected 1 true, .disconnected 0, .connected 0 false]

theorem connection_speaksTrue_replaced :
    let config : MqttConfig :=
      ⟨"broker".toList, "foxess".toList, "homeassistant".toList, true, false⟩
    ∃ world trace, Runs.run (connectionMachine config) .start replacedActions =
        some (world, trace) ∧
      world.publisher.client = some 1 ∧ world.publisher.mqttConnected = true ∧
      world.publisher.commandTopics.length = 2 ∧ SpeaksTrue config world trace := by
  intro config
  have check : (Runs.run (connectionMachine config) .start replacedActions).map (fun reached =>
      (reached.1.publisher.client, reached.1.publisher.mqttConnected,
        reached.1.publisher.commandTopics.length)) = some (some 1, true, 2) := by decide +kernel
  obtain ⟨⟨world, trace⟩, ran, same⟩ := Option.map_eq_some_iff.mp check
  simp only [Prod.mk.injEq] at same
  exact ⟨world, trace, ran, same.1, same.2.1, same.2.2, connection_speaksTrue ran⟩

end ConnectionWorld

end FoxessGateway.Mqtt
