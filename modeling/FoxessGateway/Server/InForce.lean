import FoxessGateway.Protocol.RoundTrip
import FoxessGateway.Server.SetpointInvariant

/-! # A setpoint that is no longer pending is in force

The key of a response leads to its own write as long as fewer than 65536 requests of the session
lie between the two; after that the counter of the device field comes back to it. -/

namespace FoxessGateway.Server

open ByteOrder Protocol Runs

section Steps

variable {serial : Text} {state : SetpointState}

/-! ## Prompt responses -/

/-- A success response is prompt when fewer than 65536 requests were issued on its session after
its write. -/
def isPrompt (state : SetpointState) : SetpointAction → Bool
  | .respond place =>
    (state.writeAt place).all fun (write, link) => link.issued - write.issued < 0x10000
  | _ => true

/-- The sessions of an inverter whose success responses are all prompt. -/
def promptMachine (serial : Text) (address : Nat) :
    Machine SetpointState SetpointAction SetpointEvent := fun state action =>
  if isPrompt state action then setpointMachine serial address state action else none

theorem writeAt_eq_some {place : Nat} {write : InjectedWrite} {link : Link}
    (found : state.writeAt place = some (write, link)) :
    state.wire[place]? = some write ∧ state.links[write.session]? = some link := by
  rw [SetpointState.writeAt] at found
  obtain ⟨known, isKnown, rest⟩ := Option.bind_eq_some_iff.mp found
  obtain ⟨isLink, linked, same⟩ := Option.bind_eq_some_iff.mp rest
  cases same
  exact ⟨isKnown, linked⟩

theorem finishWrite_invariant (invariant : SetpointInvariant serial state) (address : Nat)
    {place : Nat} {write : InjectedWrite} {link : Link} {confirmed : Bool}
    (known : state.wire[place]? = some write) (linked : state.links[write.session]? = some link)
    (settled : link.control.futures[write.future]? = some (.result confirmed)) :
    SetpointInvariant serial (finishWrite serial address state place write link confirmed).1 := by
  have ended := invariant.setPhase place .ended
  have freed := Link.Follows.forget link write
  rw [finishWrite]
  cases confirmed with
  | false => exact ended.follow linked freed
  | true =>
    have wasExecuted : place ∈ state.executed :=
      (invariant.links write.session link linked).settled place write known rfl settled
    have read := ended.follow linked (freed.trans (Link.Follows.read _ address))
    exact read.markApplied known wasExecuted

/-- **One step**: whatever happens next, the invariant is kept. -/
theorem promptMachine_invariant {address : Nat} {action : SetpointAction} {next : SetpointState}
    {shown : List SetpointEvent} (invariant : SetpointInvariant serial state)
    (stepped : promptMachine serial address state action = some (next, shown)) :
    SetpointInvariant serial next := by
  rw [promptMachine] at stepped
  split at stepped
  · rename_i prompt
    cases action with
    | connect =>
      cases stepped
      exact invariant.connect
    | close session =>
      obtain ⟨link, linked, same⟩ := Option.map_eq_some_iff.mp stepped
      cases same
      exact invariant.follow linked (.flags rfl rfl)
    | setpoint session percent =>
      obtain ⟨link, linked, same⟩ := Option.map_eq_some_iff.mp stepped
      obtain rfl : _ = next := congrArg Prod.fst same
      exact (invariant.setDesired percent).apply address linked (.refl link)
        (setDesiredActivePowerLimit_generation state.app serial percent).symm
        (Dict.get_set_self _ serial percent)
    | settle session =>
      rw [setpointMachine] at stepped
      dsimp only at stepped
      split at stepped
      · cases stepped
      · rename_i link linked
        split at stepped
        · cases stepped
        split at stepped
        · cases stepped
          -- nothing is pending: the current limit is read instead
          have settling : link.Follows { link with settleScheduled := true } := .flags rfl rfl
          exact invariant.follow linked (settling.trans (.read _ address))
        · -- the pending setpoint is written again on the new session
          rename_i pending isPending
          obtain rfl : _ = next := congrArg Prod.fst (Option.some.inj stepped)
          exact invariant.apply address linked (.flags rfl rfl) rfl
            (desired_of_pending isPending)
    | drained place =>
      unfold setpointMachine at stepped
      dsimp only at stepped
      split at stepped
      · cases stepped
        exact invariant.setPhase place .waiting
      · cases stepped
    | drainFailed place =>
      unfold setpointMachine at stepped
      dsimp only at stepped
      split at stepped
      · rename_i write link found _
        obtain ⟨_, linked⟩ := writeAt_eq_some found
        cases stepped
        exact (invariant.setPhase place .ended).follow linked (.forget link write)
      · cases stepped
    | finish place =>
      unfold setpointMachine at stepped
      dsimp only at stepped
      split at stepped
      · rename_i write link found _
        obtain ⟨known, linked⟩ := writeAt_eq_some found
        split at stepped
        · rename_i confirmed settled
          obtain rfl : _ = next := congrArg Prod.fst (Option.some.inj stepped)
          exact finishWrite_invariant invariant address known linked settled
        · cases stepped
      · cases stepped
    | timeout place =>
      rw [setpointMachine] at stepped
      dsimp only at stepped
      split at stepped
      · rename_i write link found _
        obtain ⟨_, linked⟩ := writeAt_eq_some found
        cases stepped
        exact (invariant.setPhase place .ended).follow linked
          ((Link.Follows.cancel link write.future).trans (.forget _ write))
      · cases stepped
    | execute place =>
      unfold setpointMachine at stepped
      dsimp only at stepped
      split at stepped
      · rename_i possible
        cases stepped
        exact invariant.execute possible.1 possible.2
      · cases stepped
    | respond place =>
      unfold setpointMachine at stepped
      dsimp only at stepped
      split at stepped
      · rename_i write link found
        obtain ⟨known, linked⟩ := writeAt_eq_some found
        split at stepped
        · rename_i wasExecuted
          cases stepped
          -- this is where the response has to be prompt
          have early : link.issued - write.issued < 0x10000 := by
            simpa [isPrompt, found] using prompt
          exact invariant.setLink ((invariant.links write.session link linked).confirm
            invariant.wire.devices invariant.wire.apart known rfl wasExecuted early)
        · cases stepped
      · cases stepped
    | reject place =>
      unfold setpointMachine at stepped
      dsimp only at stepped
      split at stepped
      · rename_i write link found
        obtain ⟨_, linked⟩ := writeAt_eq_some found
        cases stepped
        exact invariant.follow linked (.reject link write)
      · cases stepped
  · cases stepped

theorem fresh_invariant (serial : Text) : SetpointInvariant serial .fresh where
  wire := ⟨nofun, .nil, .nil, nofun, nofun⟩
  executed := ⟨.nil, nofun, nofun⟩
  links := nofun
  sessions := nofun
  given := nofun

theorem promptMachine_run_invariant {address : Nat} {actions : List SetpointAction}
    {trace : List SetpointEvent}
    (ran : run (promptMachine serial address) .fresh actions = some (state, trace)) :
    SetpointInvariant serial state :=
  run_preserves (SetpointInvariant serial)
    (fun invariant stepped => promptMachine_invariant invariant stepped)
      (fresh_invariant serial) ran

/-! ## In force -/

/-- The last write that the inverter executed carries the desired value. -/
def InForce (serial : Text) (state : SetpointState) : Prop :=
  ∃ place write, state.executed.head? = some place ∧ state.wire[place]? = some write ∧
    state.app.desiredActivePowerLimit.get serial = some write.value

theorem SetpointInvariant.inForce (invariant : SetpointInvariant serial state) {desired : Nat}
    (given : state.app.desiredActivePowerLimit.get serial = some desired)
    (settled : state.app.pendingActivePowerLimit serial = none) : InForce serial state := by
  have positive := invariant.given desired given
  have confirmed : state.app.currentActivePowerLimitGeneration serial ≤
      state.app.confirmedGeneration serial := by
    rw [AppControl.pendingActivePowerLimit] at settled
    rw [given] at settled
    dsimp only at settled
    split at settled
    · assumption
    · cases settled
  obtain ⟨place, member, write, known, generation⟩ := invariant.executed.confirms (by omega)
  cases latest : state.executed with
  | nil => rw [latest] at member; cases member
  | cons last earlier =>
    have onWire := invariant.executed.onWire last (by rw [latest]; simp)
    refine ⟨last, state.wire[last], by rw [latest]; rfl, List.getElem?_eq_getElem onWire, ?_⟩
    apply invariant.wire.carried _ (List.getElem_mem onWire)
    apply Nat.le_antisymm (invariant.wire.bounded _ (List.getElem_mem onWire))
    -- the last executed write is the confirmed one or was sent after it
    obtain ⟨bound, rfl⟩ := List.getElem?_eq_some_iff.mp known
    have ordered : state.wire[place].generation ≤ state.wire[last].generation := by
      rw [latest] at member
      rcases List.mem_cons.mp member with rfl | before
      · exact Nat.le_refl _
      · have inOrder := invariant.executed.inOrder
        rw [latest, List.pairwise_cons] at inOrder
        exact List.pairwise_iff_getElem.mp invariant.wire.ordered place last bound onWire
          (inOrder.1 place before)
    omega

/-- **A setpoint that is no longer pending is in force**, whatever the order in which setpoints,
writes, responses, timeouts and sessions come, as long as success responses are prompt. -/
theorem settledSetpoint_inForce {address : Nat} {actions : List SetpointAction} {desired : Nat}
    {trace : List SetpointEvent}
    (ran : run (promptMachine serial address) .fresh actions = some (state, trace))
    (given : state.app.desiredActivePowerLimit.get serial = some desired)
    (settled : state.app.pendingActivePowerLimit serial = none) : InForce serial state :=
  (promptMachine_run_invariant ran).inForce given settled

end Steps

/-- A setpoint is given, executed, confirmed and in force. -/
theorem settledSetpoint_inForce_confirmed :
    ∃ state trace, run (promptMachine "A".toList 0xCA5A) .fresh
        [.connect, .setpoint 0 30, .execute 0, .drained 0, .respond 0, .finish 0] =
          some (state, trace) ∧ InForce "A".toList state := by
  have ran : ((run (promptMachine "A".toList 0xCA5A) .fresh
      [.connect, .setpoint 0 30, .execute 0, .drained 0, .respond 0, .finish 0]).map fun reached =>
        (reached.1.app.desiredActivePowerLimit.get "A".toList,
          reached.1.app.pendingActivePowerLimit "A".toList)) = some (some 30, none) := by
    decide +kernel
  obtain ⟨⟨state, trace⟩, reached, same⟩ := Option.map_eq_some_iff.mp ran
  rw [Prod.mk.injEq] at same
  exact ⟨state, trace, reached, settledSetpoint_inForce reached same.1 same.2⟩

/-! ## Without prompt responses -/

/-- A write is given up. -/
theorem timeout_step (serial : Text) (address : Nat) {place : Nat} {state : SetpointState}
    {write : InjectedWrite} {link : Link} (found : state.writeAt place = some (write, link))
    (waiting : state.phases[place]? = some .waiting) :
    setpointMachine serial address state (.timeout place) =
      some ((state.setPhase place .ended).setLink write.session
          (Link.forget { link with control := link.control.cancelFuture write.future } write),
        [.result write.value .timeout]) := by
  rw [setpointMachine]
  dsimp only
  rw [found, waiting]

/-- A write is settled by its response. -/
theorem finish_step (serial : Text) (address : Nat) {place : Nat} {state : SetpointState}
    {write : InjectedWrite} {link : Link} {confirmed : Bool}
    (found : state.writeAt place = some (write, link))
    (waiting : state.phases[place]? = some .waiting)
    (settled : link.control.futures[write.future]? = some (.result confirmed)) :
    setpointMachine serial address state (.finish place) =
      some (finishWrite serial address state place write link confirmed) := by
  unfold setpointMachine
  dsimp only
  rw [found, waiting]
  dsimp only
  rw [settled]

/-- A write of the current generation that is confirmed leaves nothing pending. -/
theorem pendingActivePowerLimit_applied {app : AppControl} {serial : Text} (percent : Nat)
    {generation : Nat} (current : app.currentActivePowerLimitGeneration serial = generation) :
    (app.markActivePowerLimitApplied serial percent generation).pendingActivePowerLimit serial =
      none := by
  have confirmed : generation ≤
      (app.markActivePowerLimitApplied serial percent generation).confirmedGeneration serial := by
    rw [AppControl.markActivePowerLimitApplied, AppControl.confirmedGeneration]
    dsimp only
    split
    · rw [Dict.get_set_self]
      exact Nat.le_refl _
    · rename_i older
      exact Nat.le_of_not_lt older
  rw [AppControl.pendingActivePowerLimit]
  split
  · rfl
  · exact if_pos (le_trans (le_of_eq current) confirmed)

/-- One session, on which `count` writes were sent.  The inverter executed the first of them, and
none since. -/
structure Stalled (count : Nat) (link : Link) (state : SetpointState) : Prop where
  links : state.links = [link]
  isOpen : link.closing = false
  counted : link.control.counter = counterAfter count
  sent : state.wire.length = count
  phases : state.phases.length = count
  first : ∃ write, state.wire[0]? = some write ∧ write.session = 0 ∧ write.value = 80 ∧
    write.device = injectedDevice deviceByteWrite 1
  executed : state.executed = [0]

/-- A write that was just sent, and whose future waits under its key. -/
structure Awaited (serial : Text) (count percent : Nat) (write : InjectedWrite) (link : Link)
    (state : SetpointState) : Prop where
  known : state.wire[count]? = some write
  session : write.session = 0
  value : write.value = percent
  device : write.device = injectedDevice deviceByteWrite (count + 1)
  current : state.app.currentActivePowerLimitGeneration serial = write.generation
  desired : state.app.desiredActivePowerLimit.get serial = some percent
  pending : link.control.futures[write.future]? = some .pending
  waits : link.control.pendingWrites.get write.key = some write.future
  outstanding : write.key ∈ link.control.outstanding

namespace Stalled

variable {count : Nat} {link : Link} {state : SetpointState}

theorem setPhase (stalled : Stalled count link state) (place : Nat) (phase : WritePhase) :
    Stalled count link (state.setPhase place phase) :=
  { stalled with phases := by rw [← stalled.phases]; exact List.length_set }

theorem setLink (stalled : Stalled count link state) (later : Link) (isOpen : later.closing = false)
    (counted : later.control.counter = counterAfter count) :
    Stalled count later (state.setLink 0 later) :=
  { stalled with
    isOpen := isOpen
    counted := counted
    links := by
      show state.links.set 0 later = [later]
      rw [stalled.links]
      rfl }

theorem writeAt_eq (stalled : Stalled count link state) {place : Nat} {write : InjectedWrite}
    (known : state.wire[place]? = some write) (session : write.session = 0) :
    state.writeAt place = some (write, link) := by
  rw [SetpointState.writeAt]
  rw [known]
  show (do
    let found ← state.links[write.session]?
    return (write, found)) = some (write, link)
  rw [session, stalled.links]
  rfl

/-- The next setpoint is sent with the next count. -/
theorem setpoint (stalled : Stalled count link state) (serial : Text) {percent : Nat}
    (fits : percent < 256 ^ 2) :
    ∃ write later next,
      setpointMachine serial 0xCA5A state (.setpoint 0 percent) = some (next, [.sent count]) ∧
        Stalled (count + 1) later next ∧ next.phases[count]? = some .draining ∧
        Awaited serial count percent write later next := by
  obtain ⟨raw, wrote⟩ := writeRegister_sent link.control (by decide : 0xCA5A < 256 ^ 2) fits
  have numbered := nextDevice_eq deviceByteWrite stalled.counted
  obtain ⟨first, firstKnown, isFirst⟩ := stalled.first
  refine ⟨⟨0, (link.control.nextDevice deviceByteWrite).2, percent,
      (state.app.setDesiredActivePowerLimit serial percent).2, link.control.futures.length,
      link.issued + 1⟩,
    { link with control := link.control.awaiting, issued := link.issued + 1 },
    { state with
        app := (state.app.setDesiredActivePowerLimit serial percent).1
        links := state.links.set 0
          { link with control := link.control.awaiting, issued := link.issued + 1 }
        wire := state.wire ++ [⟨0, (link.control.nextDevice deviceByteWrite).2, percent,
          (state.app.setDesiredActivePowerLimit serial percent).2, link.control.futures.length,
          link.issued + 1⟩]
        phases := state.phases ++ [.draining] }, ?step, ?stalled, ?draining, ?awaited⟩
  case step =>
    show state.links[0]?.map _ = _
    rw [stalled.links]
    show some (applyActivePowerLimit _ _ _ _ _ _) = _
    rw [applyActivePowerLimit]
    rw [stalled.isOpen, Bool.not_false, wrote, ← stalled.links, ← stalled.sent]
    rfl
  case stalled =>
    exact
      { links := by rw [stalled.links]; rfl
        isOpen := stalled.isOpen
        counted := congrArg (LocalControl.counter ∘ Prod.fst) numbered
        sent := by rw [List.length_append, stalled.sent]; rfl
        phases := by rw [List.length_append, stalled.phases]; rfl
        first := ⟨first, by
          rw [List.getElem?_append_left (List.getElem?_eq_some_iff.mp firstKnown).1]
          exact firstKnown, isFirst⟩
        executed := stalled.executed }
  case draining => rw [← stalled.phases, List.getElem?_concat_length]
  case awaited =>
    exact
      { known := by rw [← stalled.sent, List.getElem?_concat_length]
        session := rfl
        value := rfl
        device := congrArg Prod.snd numbered
        current := setDesiredActivePowerLimit_generation state.app serial percent
        desired := Dict.get_set_self _ serial percent
        pending := List.getElem?_concat_length
        waits := Dict.get_set_self _ _ _
        outstanding := Finset.mem_insert_self _ _ }

theorem setpointDrained (stalled : Stalled count link state) (serial : Text) {percent : Nat}
    (fits : percent < 256 ^ 2) :
    ∃ write later next trace, run (setpointMachine serial 0xCA5A) state
        [.setpoint 0 percent, .drained count] = some (next, trace) ∧
      Stalled (count + 1) later next ∧ next.phases[count]? = some .waiting ∧
      Awaited serial count percent write later next := by
  obtain ⟨write, later, next, sent, stillStalled, draining, awaited⟩ := stalled.setpoint serial fits
  have drained : setpointMachine serial 0xCA5A next (.drained count) =
      some (next.setPhase count .waiting, []) := if_pos draining
  have waiting : (next.phases.set count .waiting)[count]? = some .waiting :=
    List.getElem?_set_self (by rw [stillStalled.phases]; omega)
  exact ⟨write, later, _, _, run_step sent (run_step drained rfl),
    stillStalled.setPhase count .waiting, waiting, { awaited with }⟩

/-- One more write is sent, and nothing comes back for it. -/
theorem lostRound (stalled : Stalled count link state) (serial : Text) :
    ∃ later next trace, run (setpointMachine serial 0xCA5A) state
        [.setpoint 0 50, .drained count, .timeout count] = some (next, trace) ∧
      Stalled (count + 1) later next := by
  obtain ⟨write, later, next, trace, sent, stillStalled, waiting, awaited⟩ :=
    stalled.setpointDrained serial (by decide : 50 < 256 ^ 2)
  have found := stillStalled.writeAt_eq awaited.known awaited.session
  have lost := timeout_step serial 0xCA5A found waiting
  rw [awaited.session] at lost
  have stillLost := (stillStalled.setPhase count .ended).setLink
    (Link.forget { later with control := later.control.cancelFuture write.future } write)
    stillStalled.isOpen stillStalled.counted
  exact ⟨_, _, _, run_trans sent (run_step lost rfl), stillLost⟩

/-- Any number of them. -/
theorem lostRounds (stalled : Stalled 1 link state) (serial : Text) (rounds : Nat) :
    ∃ actions later next trace, run (setpointMachine serial 0xCA5A) state actions =
        some (next, trace) ∧ Stalled (rounds + 1) later next := by
  induction rounds with
  | zero => exact ⟨[], link, state, [], rfl, stalled⟩
  | succ rounds inductionHypothesis =>
    obtain ⟨actions, middle, reached, before, ran, stalls⟩ := inductionHypothesis
    obtain ⟨later, next, after, lost, stillStalls⟩ := stalls.lostRound serial
    refine ⟨actions ++ [.setpoint 0 50, .drained (rounds + 1), .timeout (rounds + 1)], later, next,
      before ++ after, ?_, stillStalls⟩
    exact run_trans ran lost

/-- The counter has come back to the count of the first write: its response confirms the write
that is sent now. -/
theorem lateResponse (stalled : Stalled count link state) (serial : Text)
    (wrapped : count % 0x10000 = 0) :
    ∃ next trace, run (setpointMachine serial 0xCA5A) state
        [.setpoint 0 30, .drained count, .respond 0, .finish count] = some (next, trace) ∧
      next.app.desiredActivePowerLimit.get serial = some 30 ∧
      next.app.pendingActivePowerLimit serial = none ∧ ¬InForce serial next := by
  obtain ⟨write, later, next, trace, sent, stillStalled, waiting, awaited⟩ :=
    stalled.setpointDrained serial (by decide : 30 < 256 ^ 2)
  obtain ⟨early, known, session, value, device⟩ := stillStalled.first
  have sameKey : normalizeDevice (echoDevice early.device) = write.key := by
    rw [device, normalizeDevice_echoDevice, InjectedWrite.key, awaited.device, key_eq_iff]
    omega
  -- the late response settles the future of the write that waits under its key
  have resolved : (later.respond early true).control =
      { later.control with
        futures := later.control.futures.modify write.future (Future.settle true) } := by
    rw [Link.respond, LocalControl.resolveResponse]
    rw [sameKey, if_pos awaited.outstanding, awaited.waits]
  have responded : setpointMachine serial 0xCA5A next (.respond 0) =
      some (next.setLink 0 (later.respond early true), []) := by
    unfold setpointMachine
    dsimp only
    rw [stillStalled.writeAt_eq known session]
    dsimp only
    rw [stillStalled.executed, session]
    rfl
  have stillOpen : (later.respond early true).closing = false := by
    rw [← stillStalled.isOpen]
    rw [Link.respond]
    split <;> rfl
  have stillAnswered := stillStalled.setLink (later.respond early true) stillOpen
    (by rw [resolved]; exact stillStalled.counted)
  have confirmed : (later.respond early true).control.futures[write.future]? =
      some (.result true) := by
    rw [resolved, List.getElem?_modify_eq, awaited.pending]
    rfl
  have found := stillAnswered.writeAt_eq awaited.known awaited.session
  have finished := finish_step serial 0xCA5A found waiting confirmed
  have settled := pendingActivePowerLimit_applied write.value awaited.current
  refine ⟨_, _, run_trans sent (run_step responded (run_step finished rfl)), awaited.desired,
    settled, ?_⟩
  -- the inverter executed nothing since the first write
  rintro ⟨place, last, executed, atPlace, carries⟩
  have isFirst : place = 0 := by
    change next.executed.head? = some place at executed
    rw [stillStalled.executed] at executed
    exact (Option.some.inj executed).symm
  have isEarly : last = early := by
    change next.wire[place]? = some last at atPlace
    rw [isFirst, known] at atPlace
    exact (Option.some.inj atPlace).symm
  have same : some 30 = some last.value := awaited.desired.symm.trans carries
  rw [isEarly, value] at same
  cases same

end Stalled

/-- The inverter executes a write, and its response is late. -/
theorem stalled_first : ∃ link state trace,
    run (setpointMachine "A".toList 0xCA5A) .fresh
        [.connect, .setpoint 0 80, .execute 0, .drained 0, .timeout 0] = some (state, trace) ∧
      Stalled 1 link state :=
  ⟨_, _, _, rfl, rfl, rfl, rfl, rfl, rfl, ⟨_, rfl, rfl, rfl, rfl⟩, rfl⟩

/-- A response that comes after 65536 more requests confirms another write. -/
theorem lateResponse_notInForce :
    ¬ ∀ (serial : Text) (address : Nat) (actions : List SetpointAction) (state : SetpointState)
        (trace : List SetpointEvent) (desired : Nat),
      run (setpointMachine serial address) .fresh actions = some (state, trace) →
        state.app.desiredActivePowerLimit.get serial = some desired →
        state.app.pendingActivePowerLimit serial = none → InForce serial state := by
  intro inForce
  obtain ⟨link, state, trace, began, stalled⟩ := stalled_first
  obtain ⟨actions, later, reached, between, ran, stillStalled⟩ :=
    stalled.lostRounds "A".toList 65535
  obtain ⟨final, after, ended, desired, settled, notInForce⟩ :=
    stillStalled.lateResponse "A".toList (by decide)
  have wholeRun := run_trans began (run_trans ran ended)
  exact notInForce (inForce _ _ _ _ _ _ wholeRun desired settled)

end FoxessGateway.Server
