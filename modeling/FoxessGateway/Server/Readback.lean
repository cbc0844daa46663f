import FoxessGateway.Server.Injection
import FoxessGateway.Server.ReadAnswers

/-! # The readback of a setpoint

What follows an acknowledged write of the ActivePowerLimit: `_read_active_power_limit_once` with
the drain of `read_holding`, `_active_power_limit_readback_timeout`, and the frames that
`handle_frame` takes in the meantime. -/

namespace FoxessGateway.Server

open ByteOrder Protocol Effectful Action Runs

/-! ## The readback as a machine -/

inductive ReadbackPhase where
  /-- The write is acknowledged. -/
  | acknowledged
  /-- `await writer.drain()` of the read -/
  | draining
  /-- `await asyncio.sleep(timeout)` -/
  | sleeping
  | done
  deriving DecidableEq, Repr

structure ReadbackState where
  session : Session
  /-- The key of the read. -/
  key : Bytes
  phase : ReadbackPhase
  /-- The inverter's writer can be written to. -/
  isOpen : Bool

inductive ReadbackEvent where
  | asked (device : Bytes)
  /-- A result is emitted for the read with the key. -/
  | emitted (key : Bytes) (emission : ReadbackEmission)
  deriving DecidableEq, Repr

inductive ReadbackAction where
  /-- `_read_active_power_limit_once` up to its first `await` -/
  | request
  /-- The drain returns, or raises an `OSError`. -/
  | drained (failure : Option String)
  | frame (world : SessionWorld) (frame : Frame) (sendBootstrap : Bool)
  /-- The timer of the readback fires. -/
  | expire
  /-- The connection is lost. -/
  | lost
  /-- The session goes on elsewhere, with requests under other keys. -/
  | elsewhere (after : Session)

/-- The key of the next read. -/
def Session.readKey (session : Session) : Bytes :=
  match session.localControl with
  | some control => normalizeDevice (control.nextDevice deviceByteRead).2
  | none => []

namespace ReadbackState

variable (state : ReadbackState)

/-- `_active_power_limit_readback_timeout` after its sleep. -/
def expire (value : Nat) (source : RequestSource) : ReadbackState × List ReadbackEvent :=
  match state.session.pendingActivePowerLimitReadbacks.get state.key with
  | none => ({ state with phase := .done }, [])
  | some _ =>
    ({ state with session := state.session.unregisterPendingRead state.key, phase := .done },
      [.emitted state.key (value, source, .judged .timeout)])

end ReadbackState

/-- The readback of a write of the value. -/
def readbackMachine (config : SessionConfig) (value : Nat) (source : RequestSource) :
    Machine ReadbackState ReadbackAction ReadbackEvent :=
  fun state action =>
  match action with
  | .lost => some ({ state with isOpen := false }, [])
  | .request =>
    if state.phase = .acknowledged then
      let (after, start) := state.session.startRead config state.isOpen (some (value, source))
      match start with
      | .skipped => some ({ state with session := after, phase := .done }, [])
      | .raised raised =>
        some ({ state with session := after, phase := .done },
          [.emitted state.key (value, source, .unsent raised)])
      | .noConnection =>
        some ({ state with session := after, phase := .done },
          [.emitted state.key (value, source, .judged .noConnection)])
      | .sent sent =>
        some ({ state with session := after, phase := .draining }, [.asked sent.device])
    else none
  | .drained failure =>
    if state.phase = .draining then
      match failure with
      | none => some ({ state with phase := .sleeping }, [])
      | some message =>
        some ({ state with
            session := state.session.unregisterPendingRead state.key, phase := .done },
          [.emitted state.key (value, source, .unsent (.osError message))])
    else none
  | .expire => if state.phase = .sleeping then some (state.expire value source) else none
  | .frame world frame sendBootstrap =>
    -- nothing is awaited between the acknowledgement and the request
    if state.phase ≠ .acknowledged then
      let outcome := (clientFrame config world frame sendBootstrap).run state.session
      some ({ state with session := outcome.state },
        (outcome.effects.filterMap readbackEmission).map
          (.emitted (normalizeDevice frame.device)))
    else none
  | .elsewhere after =>
    if state.phase ≠ .acknowledged ∧
        after.reads.waiting state.key = state.session.reads.waiting state.key ∧
        after.localControl.isSome = state.session.localControl.isSome then
      some ({ state with session := after }, [])
    else none

/-- The results emitted for the read with the key. -/
def emissions (key : Bytes) (trace : List ReadbackEvent) : List ReadbackEmission :=
  trace.filterMap fun event =>
    match event with
    | .emitted other emission => if other = key then some emission else none
    | .asked _ => none

/-! ## The invariant -/

theorem emissions_append (key : Bytes) (before after : List ReadbackEvent) :
    emissions key (before ++ after) = emissions key before ++ emissions key after :=
  List.filterMap_append ..

theorem emissions_frame (own key : Bytes) (shown : List ReadbackEmission) :
    emissions own (shown.map (.emitted key)) = if key = own then shown else [] := by
  induction shown with
  | nil => simp [emissions]
  | cons first shown inductionHypothesis =>
    rw [emissions] at inductionHypothesis ⊢
    rw [List.map_cons, List.filterMap_cons, inductionHypothesis]
    split
    · simp_all
    · simp_all

namespace ReadbackState

variable (config : SessionConfig) (value : Nat) (source : RequestSource) (state : ReadbackState)
  (emitted : List ReadbackEmission)

/-- The read waits, and no result is emitted for it. -/
def Unsettled : Prop :=
  state.session.reads.waiting state.key =
    (some (config.activePowerLimitAddress, 1), some (value, source)) ∧ emitted = []

/-- The read waits no more, and one result is emitted for it. -/
def Settled : Prop :=
  state.session.reads.waiting state.key = (none, none) ∧
    ∃ outcome, emitted = [(value, source, outcome)]

def Holds (history : List ReadbackEvent) : Prop :=
  match state.phase with
  | .acknowledged => state.key = state.session.readKey ∧ emissions state.key history = []
  | .draining | .sleeping => state.session.reads.hasControl = true ∧
      (state.Unsettled config value source (emissions state.key history) ∨
        state.Settled value source (emissions state.key history))
  | .done => state.Settled value source (emissions state.key history)

/-- Where the step may be taken: the request of a session with local control and a serial, a
response while the serial is known, and a drain that fails before an answer comes. -/
def Orderly : ReadbackAction → Prop
  | .request => state.session.localControl.isSome = true ∧ state.session.knownSerial.isSome = true
  | .drained (some _) =>
    (state.session.pendingActivePowerLimitReadbacks.get state.key).isSome = true
  | .frame _ frame _ => normalizeDevice frame.device = state.key →
      isModbusReadResponse frame = true → state.session.knownSerial.isSome = true
  | _ => True

end ReadbackState

/-! ### The request -/

/-- A read of an address that fits is written, or finds no connection. -/
theorem startRead_eq {config : SessionConfig} {session : Session} {control : LocalControl}
    {serial : Text} (fits : config.activePowerLimitAddress < 256 ^ 2)
    (isControl : session.localControl = some control) (isSerial : session.knownSerial = some serial)
    (isOpen : Bool) (expected : Option (Nat × RequestSource)) :
    ∃ (asking : Session) (raw : Bytes), asking.localControl.isSome = true ∧
      asking.reads.waiting session.readKey =
        (some (config.activePowerLimitAddress, 1),
          expected.or (session.pendingActivePowerLimitReadbacks.get session.readKey)) ∧
      session.startRead config isOpen expected =
        if isOpen then (asking, .sent ⟨(control.nextDevice deviceByteRead).2, raw⟩)
        else (asking.unregisterPendingRead session.readKey, .noConnection) := by
  have isKey : session.readKey = normalizeDevice (control.nextDevice deviceByteRead).2 := by
    rw [Session.readKey, isControl]
  obtain ⟨raw, isBuilt⟩ := buildModbusRequest_ok modbusFnReadHolding
    (control.nextDevice deviceByteRead).2 fits (by decide : 1 < 256 ^ 2)
  refine ⟨{ session with localControl := some ((control.nextDevice deviceByteRead).1.addOutstanding
    session.readKey) }.registerPendingRead session.readKey config.activePowerLimitAddress 1
      expected, raw, rfl, ?_, ?_⟩
  · cases expected with
    | none => simp [ReadsView.waiting, Session.reads, Session.registerPendingRead]
    | some value => simp [ReadsView.waiting, Session.reads, Session.registerPendingRead]
  · rw [Session.startRead, isControl, isSerial]
    dsimp only
    rw [LocalControl.readHolding]
    dsimp only
    rw [buildModbusReadHolding, isBuilt, isKey]

/-! ### Steps -/

section Steps

variable {config : SessionConfig} {value : Nat} {source : RequestSource}
  {state next : ReadbackState} {history shown : List ReadbackEvent}

theorem unregisterPendingRead_waiting (session : Session) (key : Bytes) :
    (session.unregisterPendingRead key).reads.waiting key = (none, none) := by
  simp [ReadsView.waiting, Session.reads, Session.unregisterPendingRead, Dict.get_pop]

/-- A read that is emitted nothing for is emitted one result. -/
theorem emissions_emitted (key : Bytes) (emission : ReadbackEmission)
    (nothing : emissions key history = []) :
    emissions key (history ++ [.emitted key emission]) = [emission] := by
  rw [emissions_append, nothing]
  simp [emissions]

theorem request_holds (fits : config.activePowerLimitAddress < 256 ^ 2)
    (holds : state.Holds config value source history) (orderly : state.Orderly .request)
    (stepped : readbackMachine config value source state .request = some (next, shown)) :
    next.Holds config value source (history ++ shown) := by
  rw [readbackMachine] at stepped
  dsimp only at stepped
  split at stepped
  · rename_i isAcknowledged
    rw [ReadbackState.Holds, isAcknowledged] at holds
    obtain ⟨isKey, nothing⟩ := holds
    obtain ⟨control, isControl⟩ := Option.isSome_iff_exists.mp orderly.1
    obtain ⟨serial, isSerial⟩ := Option.isSome_iff_exists.mp orderly.2
    obtain ⟨asking, raw, hasControl, waits, started⟩ := startRead_eq fits isControl isSerial
      state.isOpen (some (value, source))
    rw [← isKey] at waits started
    rw [started] at stepped
    cases isOpen : state.isOpen with
    | true =>
      rw [isOpen, if_pos rfl] at stepped
      cases stepped
      refine ⟨hasControl, .inl ⟨waits, ?_⟩⟩
      rw [emissions_append, nothing]
      rfl
    | false =>
      rw [isOpen, if_neg Bool.false_ne_true] at stepped
      cases stepped
      refine ⟨unregisterPendingRead_waiting _ _, .judged .noConnection, ?_⟩
      exact emissions_emitted state.key _ nothing
  · cases stepped

theorem drained_holds (holds : state.Holds config value source history) {failure : Option String}
    (orderly : state.Orderly (.drained failure))
    (stepped : readbackMachine config value source state (.drained failure) = some (next, shown)) :
    next.Holds config value source (history ++ shown) := by
  simp only [readbackMachine] at stepped
  split at stepped
  · rename_i isDraining
    rw [ReadbackState.Holds, isDraining] at holds
    cases failure with
    | none =>
      cases stepped
      rw [List.append_nil]
      exact holds
    | some message =>
      cases stepped
      -- the drain fails before an answer comes, so nothing was emitted
      have nothing : emissions state.key history = [] := by
        rcases holds.2 with unsettled | settled
        · exact unsettled.2
        · rw [ReadbackState.Orderly] at orderly
          have gone : state.session.pendingActivePowerLimitReadbacks.get state.key = none :=
            congrArg Prod.snd settled.1
          rw [gone] at orderly
          cases orderly
      refine ⟨unregisterPendingRead_waiting _ _, .unsent (.osError message), ?_⟩
      exact emissions_emitted state.key _ nothing
  · cases stepped

theorem expire_holds (holds : state.Holds config value source history)
    (stepped : readbackMachine config value source state .expire = some (next, shown)) :
    next.Holds config value source (history ++ shown) := by
  simp only [readbackMachine] at stepped
  split at stepped
  · rename_i isSleeping
    rw [ReadbackState.Holds, isSleeping] at holds
    rw [ReadbackState.expire] at stepped
    rcases holds.2 with ⟨waits, nothing⟩ | settled
    · -- no answer came in time
      have isWaiting : state.session.pendingActivePowerLimitReadbacks.get state.key =
        some (value, source) := congrArg Prod.snd waits
      rw [isWaiting] at stepped
      cases stepped
      refine ⟨unregisterPendingRead_waiting _ _, .judged .timeout, ?_⟩
      exact emissions_emitted state.key _ nothing
    · -- the pop finds nothing, and the timer emits nothing
      have gone : state.session.pendingActivePowerLimitReadbacks.get state.key = none :=
        congrArg Prod.snd settled.1
      rw [gone] at stepped
      cases stepped
      rw [List.append_nil]
      exact settled
  · cases stepped

/-- A frame keeps a settled read settled. -/
theorem frame_settled {world : SessionWorld} {frame : Frame} {sendBootstrap : Bool}
    (settled : state.Settled value source (emissions state.key history)) :
    let outcome := (clientFrame config world frame sendBootstrap).run state.session
    ({ state with session := outcome.state } : ReadbackState).Settled value source
      (emissions state.key (history ++ (outcome.effects.filterMap readbackEmission).map
        (.emitted (normalizeDevice frame.device)))) := by
  dsimp only
  have judges := clientFrame_judges config state.key world frame sendBootstrap state.session
  dsimp only at judges
  obtain ⟨gone, one⟩ := settled
  rw [emissions_append, emissions_frame]
  by_cases same : state.key = normalizeDevice frame.device
  · obtain ⟨stays, silent⟩ := judges.settled same gone
    rw [if_pos same.symm, silent, List.append_nil]
    exact ⟨stays, one⟩
  · rw [if_neg (Ne.symm same), List.append_nil]
    exact ⟨(judges.others same).trans gone, one⟩

theorem frame_unsettled {world : SessionWorld} {frame : Frame} {sendBootstrap : Bool}
    (hasControl : state.session.reads.hasControl = true)
    (unsettled : state.Unsettled config value source (emissions state.key history))
    (orderly : state.Orderly (.frame world frame sendBootstrap)) :
    let outcome := (clientFrame config world frame sendBootstrap).run state.session
    let after : ReadbackState := { state with session := outcome.state }
    let emitted := emissions state.key (history ++
      (outcome.effects.filterMap readbackEmission).map (.emitted (normalizeDevice frame.device)))
    after.Unsettled config value source emitted ∨ after.Settled value source emitted := by
  dsimp only
  have judges := clientFrame_judges config state.key world frame sendBootstrap state.session
  dsimp only at judges
  obtain ⟨waits, nothing⟩ := unsettled
  rw [emissions_append, emissions_frame, nothing, List.nil_append]
  by_cases same : state.key = normalizeDevice frame.device
  · rw [if_pos same.symm]
    obtain ⟨stays, silent⟩ | ⟨gone, verdict, emitted⟩ :=
      judges.waits same value source waits hasControl (orderly same.symm)
    · exact .inl ⟨stays.trans waits, silent⟩
    · exact .inr ⟨gone, _, emitted⟩
  · rw [if_neg (Ne.symm same)]
    exact .inl ⟨(judges.others same).trans waits, rfl⟩

/-- Where a step leaves the phase as it is, the invariant is about the read alone. -/
theorem ReadbackState.Holds.samePhase {after : Session}
    (holds : state.Holds config value source history) (goesOn : state.phase ≠ .acknowledged)
    (sameControl : after.reads.hasControl = state.session.reads.hasControl)
    (unsettled : state.session.reads.hasControl = true →
      state.Unsettled config value source (emissions state.key history) →
        ({ state with session := after } : ReadbackState).Unsettled config value source
            (emissions state.key (history ++ shown)) ∨
          ({ state with session := after } : ReadbackState).Settled value source
            (emissions state.key (history ++ shown)))
    (settled : state.Settled value source (emissions state.key history) →
      ({ state with session := after } : ReadbackState).Settled value source
        (emissions state.key (history ++ shown))) :
    ({ state with session := after } : ReadbackState).Holds config value source
      (history ++ shown) := by
  have waiting : (state.session.reads.hasControl = true ∧
      (state.Unsettled config value source (emissions state.key history) ∨
        state.Settled value source (emissions state.key history))) →
      after.reads.hasControl = true ∧
        (({ state with session := after } : ReadbackState).Unsettled config value source
            (emissions state.key (history ++ shown)) ∨
          ({ state with session := after } : ReadbackState).Settled value source
            (emissions state.key (history ++ shown))) := by
    rintro ⟨hasControl, either⟩
    exact ⟨sameControl.trans hasControl,
      either.elim (unsettled hasControl) fun isSettled => .inr (settled isSettled)⟩
  rw [ReadbackState.Holds] at holds ⊢
  dsimp only
  cases isPhase : state.phase with
  | acknowledged => exact absurd isPhase goesOn
  | draining =>
    rw [isPhase] at holds
    exact waiting holds
  | sleeping =>
    rw [isPhase] at holds
    exact waiting holds
  | done =>
    rw [isPhase] at holds
    exact settled holds

theorem frame_holds (holds : state.Holds config value source history) {world : SessionWorld}
    {frame : Frame} {sendBootstrap : Bool}
    (orderly : state.Orderly (.frame world frame sendBootstrap))
    (stepped : readbackMachine config value source state (.frame world frame sendBootstrap) =
      some (next, shown)) :
    next.Holds config value source (history ++ shown) := by
  rw [readbackMachine] at stepped
  dsimp only at stepped
  split at stepped
  · rename_i goesOn
    cases stepped
    have judges := clientFrame_judges config state.key world frame sendBootstrap state.session
    apply holds.samePhase goesOn judges.hasControl
    · intro hasControl unsettled
      exact frame_unsettled hasControl unsettled orderly
    · exact frame_settled
  · cases stepped

theorem elsewhere_holds (holds : state.Holds config value source history) {after : Session}
    (stepped : readbackMachine config value source state (.elsewhere after) = some (next, shown)) :
    next.Holds config value source (history ++ shown) := by
  rw [readbackMachine] at stepped
  split at stepped
  · rename_i apart
    obtain ⟨goesOn, sameWaiting, sameControl⟩ := apart
    cases stepped
    apply holds.samePhase goesOn sameControl
    · rintro _ ⟨waits, nothing⟩
      left
      rw [List.append_nil]
      exact ⟨sameWaiting.trans waits, nothing⟩
    · rintro ⟨gone, one⟩
      rw [List.append_nil]
      exact ⟨sameWaiting.trans gone, one⟩
  · cases stepped

/-- An orderly step keeps the invariant. -/
theorem readbackMachine_holds (fits : config.activePowerLimitAddress < 256 ^ 2)
    {action : ReadbackAction} (holds : state.Holds config value source history)
    (orderly : state.Orderly action)
    (stepped : readbackMachine config value source state action = some (next, shown)) :
    next.Holds config value source (history ++ shown) := by
  cases action with
  | request => exact request_holds fits holds orderly stepped
  | drained failure => exact drained_holds holds orderly stepped
  | expire => exact expire_holds holds stepped
  | frame world frame sendBootstrap => exact frame_holds holds orderly stepped
  | elsewhere after => exact elsewhere_holds holds stepped
  | lost =>
    cases stepped
    rw [List.append_nil]
    exact holds

end Steps

/-! ## Every interleaving -/

theorem readbackMachine_key {config : SessionConfig} {value : Nat} {source : RequestSource}
    {state next : ReadbackState} {shown : List ReadbackEvent} {action : ReadbackAction}
    (stepped : readbackMachine config value source state action = some (next, shown)) :
    next.key = state.key := by
  cases action with
  | lost =>
    cases stepped
    rfl
  | request =>
    simp only [readbackMachine] at stepped
    split at stepped
    · split at stepped <;> cases stepped <;> rfl
    · cases stepped
  | drained failure =>
    simp only [readbackMachine] at stepped
    split at stepped
    · split at stepped <;> cases stepped <;> rfl
    · cases stepped
  | expire =>
    simp only [readbackMachine, ReadbackState.expire] at stepped
    split at stepped
    · split at stepped <;> cases stepped <;> rfl
    · cases stepped
  | frame world frame sendBootstrap =>
    simp only [readbackMachine] at stepped
    split at stepped
    · cases stepped
      rfl
    · cases stepped
  | elsewhere after =>
    simp only [readbackMachine] at stepped
    split at stepped
    · cases stepped
      rfl
    · cases stepped

/-- A readback comes to its end when the drain returns and the timer fires. -/
theorem readback_ends (config : SessionConfig) (value : Nat) (source : RequestSource)
    (state : ReadbackState) : ∃ more reached later,
      run (readbackMachine config value source) state more = some (reached, later) ∧
        reached.phase = .done := by
  have fromSleeping : ∀ state : ReadbackState, state.phase = .sleeping → ∃ reached later,
      run (readbackMachine config value source) state [.expire] = some (reached, later) ∧
        reached.phase = .done := by
    intro state isSleeping
    refine ⟨(state.expire value source).1, _, run_step (if_pos isSleeping) rfl, ?_⟩
    rw [ReadbackState.expire]
    split <;> rfl
  have fromDraining : ∀ state : ReadbackState, state.phase = .draining → ∃ reached later,
      run (readbackMachine config value source) state [.drained none, .expire] =
        some (reached, later) ∧ reached.phase = .done := by
    intro state isDraining
    obtain ⟨reached, later, ran, isOver⟩ := fromSleeping { state with phase := .sleeping } rfl
    exact ⟨reached, _, run_step (if_pos isDraining) ran, isOver⟩
  cases isPhase : state.phase with
  | done => exact ⟨[], state, [], rfl, isPhase⟩
  | sleeping =>
    obtain ⟨reached, later, ran, isOver⟩ := fromSleeping state isPhase
    exact ⟨_, reached, later, ran, isOver⟩
  | draining =>
    obtain ⟨reached, later, ran, isOver⟩ := fromDraining state isPhase
    exact ⟨_, reached, later, ran, isOver⟩
  | acknowledged =>
    obtain ⟨next, shown, stepped, isNext⟩ : ∃ next shown,
        readbackMachine config value source state .request = some (next, shown) ∧
          (next.phase = .done ∨ next.phase = .draining) := by
      simp only [readbackMachine, if_pos isPhase]
      split
      · exact ⟨_, _, rfl, .inl rfl⟩
      · exact ⟨_, _, rfl, .inl rfl⟩
      · exact ⟨_, _, rfl, .inl rfl⟩
      · exact ⟨_, _, rfl, .inr rfl⟩
    rcases isNext with isOver | isDraining
    · exact ⟨[.request], next, _, run_step stepped rfl, isOver⟩
    · obtain ⟨reached, later, ran, isOver⟩ := fromDraining next isDraining
      exact ⟨_, reached, _, run_step stepped ran, isOver⟩

/-- **One result for each readback.**  A run of the readback of an acknowledged write, whose steps
are all orderly, emits at most one result for it, and one when it is over.  No read or readback
waits under its key then, and from wherever the run has come it can be brought to its end. -/
theorem readback_oneResult {config : SessionConfig} (value : Nat) (source : RequestSource)
    (fits : config.activePowerLimitAddress < 256 ^ 2) {session : Session} {isOpen : Bool}
    {actions : List ReadbackAction} {final : ReadbackState} {trace : List ReadbackEvent}
    (orderly : Along (readbackMachine config value source) ReadbackState.Orderly
      ⟨session, session.readKey, .acknowledged, isOpen⟩ actions)
    (ran : run (readbackMachine config value source)
      ⟨session, session.readKey, .acknowledged, isOpen⟩ actions = some (final, trace)) :
    (emissions session.readKey trace = [] ∨
      ∃ outcome, emissions session.readKey trace = [(value, source, outcome)]) ∧
    (final.phase = .done →
      (∃ outcome, emissions session.readKey trace = [(value, source, outcome)]) ∧
        final.session.pendingReads.get session.readKey = none ∧
        final.session.pendingActivePowerLimitReadbacks.get session.readKey = none) ∧
    ∃ more reached later, run (readbackMachine config value source) final more =
      some (reached, later) ∧ reached.phase = .done := by
  have holds : final.Holds config value source trace := by
    have initially : ReadbackState.Holds config value source
        ⟨session, session.readKey, .acknowledged, isOpen⟩ [] := ⟨rfl, rfl⟩
    apply run_invariant_along _ initially orderly ran
    exact fun holds within stepped => readbackMachine_holds fits holds within stepped
  have sameKey : final.key = session.readKey :=
    run_preserves (·.key = session.readKey)
      (fun same stepped => (readbackMachine_key stepped).trans same) rfl ran
  refine ⟨?_, ?_, readback_ends config value source final⟩
  · cases isPhase : final.phase with
    | acknowledged =>
      rw [ReadbackState.Holds, isPhase, sameKey] at holds
      exact .inl holds.2
    | draining =>
      rw [ReadbackState.Holds, isPhase, sameKey] at holds
      exact holds.2.imp And.right And.right
    | sleeping =>
      rw [ReadbackState.Holds, isPhase, sameKey] at holds
      exact holds.2.imp And.right And.right
    | done =>
      rw [ReadbackState.Holds, isPhase, sameKey] at holds
      exact .inr holds.2
  · intro isOver
    rw [ReadbackState.Holds, isOver, sameKey] at holds
    obtain ⟨gone, one⟩ := holds
    rw [sameKey] at gone
    exact ⟨one, congrArg Prod.fst gone, congrArg Prod.snd gone⟩

/-- A session with a serial. -/
def knownSession : Session := { Session.fresh .everything with serial := some "S".toList }

/-- A readback that times out. -/
theorem readback_oneResult_timeout : ∃ final trace,
    run (readbackMachine .everything 50 .setpoint)
        ⟨knownSession, knownSession.readKey, .acknowledged, true⟩
        [.request, .drained none, .expire] = some (final, trace) ∧
      ∃ outcome, emissions knownSession.readKey trace = [(50, .setpoint, outcome)] := by
  have shown : (run (readbackMachine .everything 50 .setpoint)
      ⟨knownSession, knownSession.readKey, .acknowledged, true⟩
      [.request, .drained none, .expire]).map (·.1.phase) = some .done := by
    decide +kernel
  obtain ⟨⟨final, trace⟩, ran, isOver⟩ := Option.map_eq_some_iff.mp shown
  have orderly : Along (readbackMachine .everything 50 .setpoint) ReadbackState.Orderly
      ⟨knownSession, knownSession.readKey, .acknowledged, true⟩
      [.request, .drained none, .expire] :=
    ⟨⟨rfl, rfl⟩, fun _ _ _ => ⟨trivial, fun _ _ _ => ⟨trivial, fun _ _ _ => trivial⟩⟩⟩
  exact ⟨final, trace, ran,
    ((readback_oneResult 50 .setpoint (by decide) orderly ran).2.1 isOver).1⟩

/-! ### A drain that fails late -/

/-- The response to the session's first read, with the value asked for. -/
def readResponse : Frame :=
  builtFrame marker7f [0x91, 0x01, 0xf0, 0xaa] commandEnvelopeFunc
    [0x01, 0x03, 0x02, 0x00, 0x32] endF7

def lateFailure : List ReadbackAction :=
  [.request, .frame ⟨0, 0, none⟩ readResponse false, .drained (some "Connection lost")]

/-- The inverter answers while the read is still being sent, and then the drain fails: one readback
has two results. -/
theorem readback_twoResults : ¬ ∀ (config : SessionConfig) (value : Nat) (source : RequestSource)
    (session : Session) (isOpen : Bool) (actions : List ReadbackAction) (final : ReadbackState)
    (trace : List ReadbackEvent), config.activePowerLimitAddress < 256 ^ 2 →
      session.localControl.isSome = true → session.knownSerial.isSome = true →
      run (readbackMachine config value source)
        ⟨session, session.readKey, .acknowledged, isOpen⟩ actions = some (final, trace) →
      final.phase = .done →
      ∃ outcome, emissions session.readKey trace = [(value, source, outcome)] := by
  intro claimed
  have shown : (run (readbackMachine .everything 50 .setpoint)
      ⟨knownSession, knownSession.readKey, .acknowledged, true⟩ lateFailure).map
        (fun reached => (reached.1.phase, emissions knownSession.readKey reached.2)) =
      some (.done, [(50, .setpoint, .judged (.matched 50)),
        (50, .setpoint, .unsent (.osError "Connection lost"))]) := by
    decide +kernel
  obtain ⟨⟨final, trace⟩, ran, same⟩ := Option.map_eq_some_iff.mp shown
  rw [Prod.mk.injEq] at same
  obtain ⟨outcome, one⟩ := claimed .everything 50 .setpoint knownSession true lateFailure
    final trace
    (by decide) rfl rfl ran same.1
  have twice := congrArg List.length (same.2.symm.trans one)
  exact absurd twice (by simp)

end FoxessGateway.Server
