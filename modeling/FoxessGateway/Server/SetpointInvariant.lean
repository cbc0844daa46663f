import FoxessGateway.Server.Setpoints

/-! # What holds of the writes of a setpoint

The generations grow along the wire, a confirmed generation is one the inverter executed, and
the future under a key is that of the last write with the key. -/

namespace FoxessGateway.Server

open ByteOrder Protocol Runs

/-! ## Keys -/

/-- The counter of a session after it has issued so many requests. -/
def counterAfter (issued : Nat) : Nat := (injectedCounterStart + issued) % 0x10000

/-- The device field of a session's request, which `issued` counts. -/
def injectedDevice (opType : UInt8) (issued : Nat) : Bytes :=
  [opType, UInt8.ofNat (counterAfter issued &&& 0xFF),
    UInt8.ofNat ((counterAfter issued >>> 8) &&& 0xFF), injectedSessionMarker]

theorem counterAfter_succ (issued : Nat) :
    (counterAfter issued + 1) &&& 0xFFFF = counterAfter (issued + 1) := by
  rw [show 0xFFFF = 2 ^ 16 - 1 from rfl, Nat.and_two_pow_sub_one_eq_mod]
  unfold counterAfter
  omega

theorem nextDevice_eq {control : LocalControl} {issued : Nat} (opType : UInt8)
    (counted : control.counter = counterAfter issued) :
    control.nextDevice opType =
      ({ control with counter := counterAfter (issued + 1) },
        injectedDevice opType (issued + 1)) := by
  rw [LocalControl.nextDevice, injectedDevice]
  rw [counted, counterAfter_succ]

theorem low_byte_toNat (counter : Nat) :
    (UInt8.ofNat (counter &&& 0xFF)).toNat = counter % 256 := by
  rw [show 0xFF = 2 ^ 8 - 1 from rfl, Nat.and_two_pow_sub_one_eq_mod, UInt8.toNat_ofNat']
  omega

/-- Two writes of a session have the same key only a multiple of 65536 requests apart. -/
theorem key_eq_iff {first second : Nat} :
    normalizeDevice (injectedDevice deviceByteWrite first) =
        normalizeDevice (injectedDevice deviceByteWrite second) ↔
      first % 0x10000 = second % 0x10000 := by
  have sameCounter : counterAfter first = counterAfter second ↔
      first % 0x10000 = second % 0x10000 := by
    unfold counterAfter injectedCounterStart
    omega
  rw [← sameCounter]
  constructor
  · intro same
    simp only [normalizeDevice, injectedDevice, List.take_succ_cons, List.take_zero,
      List.cons.injEq, and_true, true_and] at same
    have low := congrArg UInt8.toNat same.1
    have high := congrArg UInt8.toNat same.2
    rw [low_byte_toNat, low_byte_toNat] at low high
    rw [Nat.shiftRight_eq_div_pow, Nat.shiftRight_eq_div_pow] at high
    have small : ∀ issued, counterAfter issued < 0x10000 := fun issued => Nat.mod_lt _ (by decide)
    have firstSmall := small first
    have secondSmall := small second
    omega
  · intro same
    rw [injectedDevice, injectedDevice, same]

/-- Setting bit 7 of the first byte and clearing it again. -/
theorem normalizeDevice_echoDevice (issued : Nat) :
    normalizeDevice (echoDevice (injectedDevice deviceByteWrite issued)) =
      normalizeDevice (injectedDevice deviceByteWrite issued) := by
  rfl

/-! ## How a session may go on -/

/-- A session goes on from `old` to `new` without a write of it being sent or confirmed. -/
structure Link.Follows (old new : Link) : Prop where
  counted : old.control.counter = counterAfter old.issued →
    new.control.counter = counterAfter new.issued
  issued : old.issued ≤ new.issued
  awaited : ∀ {key future}, new.control.pendingWrites.get key = some future →
    old.control.pendingWrites.get key = some future
  created : old.control.futures.length ≤ new.control.futures.length
  settled : ∀ {future : Nat}, new.control.futures[future]? = some (.result true) →
    old.control.futures[future]? = some (.result true)

namespace Link.Follows

theorem refl (link : Link) : link.Follows link := ⟨id, Nat.le_refl _, id, Nat.le_refl _, id⟩

theorem trans {first second third : Link} (early : first.Follows second)
    (late : second.Follows third) : first.Follows third where
  counted counts := late.counted (early.counted counts)
  issued := early.issued.trans late.issued
  awaited found := early.awaited (late.awaited found)
  created := early.created.trans late.created
  settled found := early.settled (late.settled found)

/-- Nothing but the flags of a session changes. -/
theorem flags {old new : Link} (control : new.control = old.control)
    (issued : new.issued = old.issued) :
    old.Follows new := by
  constructor
  case counted =>
    rw [control, issued]
    exact id
  case issued =>
    rw [issued]
  case awaited =>
    rw [control]
    exact id
  case created =>
    rw [control]
  case settled =>
    rw [control]
    exact id

theorem forgetKey (link : Link) (key : Bytes) :
    link.Follows { link with control := link.control.forgetWrite key } where
  counted := id
  issued := Nat.le_refl _
  created := Nat.le_refl _
  settled := id
  awaited {other future} found := by
    change (link.control.pendingWrites.pop key).get other = some future at found
    rw [Dict.get_pop] at found
    split at found
    · cases found
    · exact found

theorem forget (link : Link) (write : InjectedWrite) : link.Follows (link.forget write) :=
  forgetKey link write.key

/-- A future is changed to something else than a confirmation. -/
theorem changeFuture (link : Link) (place : Nat) {change : Future Bool → Future Bool}
    (unconfirmed : ∀ state, change state = .result true → state = .result true) :
    link.Follows { link with
      control := { link.control with futures := link.control.futures.modify place change } } where
  counted := id
  issued := Nat.le_refl _
  awaited := id
  created := by rw [List.length_modify]
  settled {future} found := by
    change (link.control.futures.modify place change)[future]? = _ at found
    rw [List.getElem?_modify] at found
    obtain ⟨state, known, became⟩ := Option.map_eq_some_iff.mp found
    rw [known]
    split at became
    · rw [unconfirmed state became]
    · exact congrArg some became

theorem cancel (link : Link) (place : Nat) :
    link.Follows { link with control := link.control.cancelFuture place } := by
  refine changeFuture link place fun state cancelled => ?_
  cases state with
  | pending => cases cancelled
  | result value => exact cancelled
  | cancelled => cases cancelled

theorem reject (link : Link) (write : InjectedWrite) : link.Follows (link.respond write false) := by
  rw [Link.respond, LocalControl.resolveResponse]
  split
  · split
    · refine changeFuture link _ fun state settled => ?_
      cases state with
      | pending => cases settled
      | result value => exact settled
      | cancelled => cases settled
    · exact refl link
  · exact refl link

/-- A request is numbered, whatever becomes of its frame. -/
theorem number (link : Link) (opType : UInt8) :
    link.Follows
      { link with control := (link.control.nextDevice opType).1, issued := link.issued + 1 } where
  counted counts := by
    rw [nextDevice_eq opType counts]
  issued := Nat.le_succ _
  awaited := id
  created := Nat.le_refl _
  settled := id

theorem read (link : Link) (address : Nat) :
    link.Follows (link.readActivePowerLimitOnce address) := by
  refine (number link deviceByteRead).trans ?_
  rw [Link.readActivePowerLimitOnce, LocalControl.readHolding]
  dsimp only
  split
  · exact refl _
  · exact ⟨id, Nat.le_refl _, id, Nat.le_refl _, id⟩

end Link.Follows

/-! ## A write that is sent -/

/-- The state with a request numbered and a new future waiting under its key. -/
def LocalControl.awaiting (control : LocalControl) : LocalControl :=
  let key := normalizeDevice (control.nextDevice deviceByteWrite).2
  ((control.nextDevice deviceByteWrite).1.addOutstanding key).awaitWrite key

/-- A write on an open connection is sent. -/
theorem writeRegister_sent (control : LocalControl) {address value : Nat}
    (addressFits : address < 256 ^ 2) (valueFits : value < 256 ^ 2) :
    ∃ raw, control.writeRegister true address value =
      (control.awaiting, .ok (some ⟨(control.nextDevice deviceByteWrite).2, raw,
        control.futures.length⟩)) := by
  obtain ⟨raw, isBuilt⟩ := buildModbusRequest_ok modbusFnWriteSingle
    (control.nextDevice deviceByteWrite).2 addressFits valueFits
  refine ⟨raw, ?_⟩
  rw [LocalControl.writeRegister]
  dsimp only
  rw [buildModbusWriteSingle, isBuilt]
  rfl

/-- A write that finds the connection closing leaves a future that nothing waits for. -/
theorem Link.Follows.unsent (link : Link) :
    link.Follows { link with
      control := link.control.awaiting.forgetWrite
        (normalizeDevice (link.control.nextDevice deviceByteWrite).2)
      issued := link.issued + 1 } where
  counted counts := (Link.Follows.number link deviceByteWrite).counted counts
  issued := Nat.le_succ _
  awaited {other future} found := by
    change ((link.control.pendingWrites.set _ _).pop _).get other = some future at found
    rw [Dict.get_pop] at found
    split at found
    · cases found
    · rename_i differs
      rwa [Dict.get_set, if_neg differs] at found
  created := by
    show link.control.futures.length ≤ (link.control.futures ++ [Future.pending]).length
    simp
  settled {future} found := by
    change (link.control.futures ++ [Future.pending])[future]? = some (.result true) at found
    rw [List.getElem?_append] at found
    split at found
    · exact found
    · rw [List.getElem?_singleton] at found
      split at found <;> cases found

/-- What `write_register` does to the session: it sends nothing, or it numbers the request, lets a
new future wait under its key, and sends it. -/
theorem writeRegister_cases (link : Link) (writable : Bool) (address value : Nat) :
    (link.Follows { link with
        control := (link.control.writeRegister writable address value).1
        issued := link.issued + 1 } ∧
      ∀ sent, (link.control.writeRegister writable address value).2 ≠ .ok (some sent)) ∨
    ∃ raw, link.control.writeRegister writable address value =
      (link.control.awaiting, .ok (some ⟨(link.control.nextDevice deviceByteWrite).2, raw,
        link.control.futures.length⟩)) := by
  rw [LocalControl.writeRegister]
  dsimp only
  cases buildModbusWriteSingle (link.control.nextDevice deviceByteWrite).2 address value with
  | error raised => exact .inl ⟨Link.Follows.number link deviceByteWrite, nofun⟩
  | ok raw =>
    cases writable with
    | true => exact .inr ⟨raw, rfl⟩
    | false => exact .inl ⟨Link.Follows.unsent link, nofun⟩

/-! ## The invariant -/

/-- What a session knows of the writes on the wire. -/
structure LinkInvariant (wire : List InjectedWrite) (executed : List Nat) (session : Nat)
    (link : Link) : Prop where
  counted : link.control.counter = counterAfter link.issued
  /-- The future under a key is that of the last write with the key. -/
  awaited : ∀ key future, link.control.pendingWrites.get key = some future →
    ∃ write ∈ wire, write.session = session ∧ write.key = key ∧ write.future = future ∧
      ∀ other ∈ wire, other.session = session → other.key = key → other.issued ≤ write.issued
  past : ∀ write ∈ wire, write.session = session →
    write.future < link.control.futures.length ∧ write.issued ≤ link.issued
  /-- A write that is confirmed was executed. -/
  settled : ∀ place write, wire[place]? = some write → write.session = session →
    link.control.futures[write.future]? = some (.result true) → place ∈ executed

/-- The wire, with the current generation and the desired value. -/
structure WireInvariant (wire : List InjectedWrite) (generation : Nat) (desired : Option Nat) :
    Prop where
  devices : ∀ write ∈ wire, write.device = injectedDevice deviceByteWrite write.issued
  ordered : wire.Pairwise fun earlier later => earlier.generation ≤ later.generation
  apart : wire.Pairwise fun earlier later => earlier.session = later.session →
    earlier.issued < later.issued ∧ earlier.future < later.future
  bounded : ∀ write ∈ wire, write.generation ≤ generation
  carried : ∀ write ∈ wire, write.generation = generation → desired = some write.value

structure ExecutedInvariant (wire : List InjectedWrite) (executed : List Nat) (confirmed : Nat) :
    Prop where
  inOrder : executed.Pairwise fun later earlier => earlier < later
  onWire : ∀ place ∈ executed, place < wire.length
  confirms : 0 < confirmed →
    ∃ place ∈ executed, ∃ write, wire[place]? = some write ∧ write.generation = confirmed

structure SetpointInvariant (serial : Text) (state : SetpointState) : Prop where
  wire : WireInvariant state.wire (state.app.currentActivePowerLimitGeneration serial)
    (state.app.desiredActivePowerLimit.get serial)
  executed : ExecutedInvariant state.wire state.executed (state.app.confirmedGeneration serial)
  links : ∀ session link, state.links[session]? = some link →
    LinkInvariant state.wire state.executed session link
  sessions : ∀ write ∈ state.wire, write.session < state.links.length
  given : ∀ desired, state.app.desiredActivePowerLimit.get serial = some desired →
    0 < state.app.currentActivePowerLimitGeneration serial

/-! ## Steps on one session -/

theorem LinkInvariant.follows {wire : List InjectedWrite} {executed : List Nat} {session : Nat}
    {old new : Link} (invariant : LinkInvariant wire executed session old)
    (follows : old.Follows new) : LinkInvariant wire executed session new where
  counted := follows.counted invariant.counted
  awaited key future found := invariant.awaited key future (follows.awaited found)
  past write member same := by
    obtain ⟨future, issued⟩ := invariant.past write member same
    exact ⟨future.trans_le follows.created, issued.trans follows.issued⟩
  settled place write known same confirmed :=
    invariant.settled place write known same (follows.settled confirmed)

/-- More writes are executed. -/
theorem LinkInvariant.execute {wire : List InjectedWrite} {executed : List Nat} {session : Nat}
    {link : Link} (invariant : LinkInvariant wire executed session link) (place : Nat) :
    LinkInvariant wire (place :: executed) session link :=
  { invariant with
    settled := fun other write known same confirmed =>
      List.mem_cons_of_mem _ (invariant.settled other write known same confirmed) }

/-- A write is sent on another session. -/
theorem LinkInvariant.elsewhere {wire : List InjectedWrite} {executed : List Nat} {session : Nat}
    {link : Link} (invariant : LinkInvariant wire executed session link) {sent : InjectedWrite}
    (other : sent.session ≠ session) : LinkInvariant (wire ++ [sent]) executed session link where
  counted := invariant.counted
  awaited key future found := by
    obtain ⟨write, member, same, isKey, isFuture, last⟩ := invariant.awaited key future found
    refine ⟨write, by simp [member], same, isKey, isFuture, fun later inside here => ?_⟩
    rcases List.mem_append.mp inside with before | new
    · exact last later before here
    · exact absurd ((List.mem_singleton.mp new) ▸ here) other
  past write member same := by
    rcases List.mem_append.mp member with before | new
    · exact invariant.past write before same
    · exact absurd ((List.mem_singleton.mp new) ▸ same) other
  settled place write known same confirmed := by
    rw [List.getElem?_append] at known
    split at known
    · exact invariant.settled place write known same confirmed
    · rw [List.getElem?_singleton] at known
      split at known
      · cases known
        exact absurd same other
      · cases known

/-- A write is sent on the session itself. -/
theorem LinkInvariant.sent {wire : List InjectedWrite} {executed : List Nat} {session : Nat}
    {link : Link} (invariant : LinkInvariant wire executed session link) (value generation : Nat) :
    LinkInvariant
      (wire ++ [⟨session, (link.control.nextDevice deviceByteWrite).2, value, generation,
        link.control.futures.length, link.issued + 1⟩])
      executed session
      { link with control := link.control.awaiting, issued := link.issued + 1 } where
  counted := (Link.Follows.number link deviceByteWrite).counted invariant.counted
  awaited key future found := by
    change (link.control.pendingWrites.set _ link.control.futures.length).get key =
      some future at found
    rw [Dict.get_set] at found
    split at found
    · -- the new future, under the new key
      rename_i isKey
      cases found
      refine ⟨_, List.mem_append_right _ (List.mem_singleton_self _), rfl, isKey.symm, rfl, ?_⟩
      intro other member here sameKey
      rcases List.mem_append.mp member with before | new
      · exact (invariant.past other before here).2.trans (Nat.le_succ _)
      · rw [List.mem_singleton.mp new]
    · -- another key: the write it belongs to is not the new one
      rename_i differs
      obtain ⟨write, member, same, isKey, isFuture, last⟩ := invariant.awaited key future found
      refine ⟨write, by simp [member], same, isKey, isFuture, fun other inside here sameKey => ?_⟩
      rcases List.mem_append.mp inside with before | new
      · exact last other before here sameKey
      · rw [List.mem_singleton.mp new] at sameKey
        exact absurd sameKey.symm differs
  past write member same := by
    show write.future < (link.control.futures ++ [Future.pending]).length ∧
      write.issued ≤ link.issued + 1
    rw [List.length_append, List.length_singleton]
    rcases List.mem_append.mp member with before | new
    · obtain ⟨future, issued⟩ := invariant.past write before same
      omega
    · rw [List.mem_singleton.mp new]
      exact ⟨Nat.lt_succ_self _, Nat.le_refl _⟩
  settled place write known same confirmed := by
    change (link.control.futures ++ [Future.pending])[write.future]? =
      some (.result true) at confirmed
    rw [List.getElem?_append] at known confirmed
    split at known
    · -- a future that was there before
      have old := (invariant.past write (List.mem_of_getElem? known) same).1
      rw [if_pos old] at confirmed
      exact invariant.settled place write known same confirmed
    · rw [List.getElem?_singleton] at known
      split at known
      · cases known
        -- the new future is still pending
        rw [if_neg (Nat.lt_irrefl _), Nat.sub_self] at confirmed
        cases confirmed
      · cases known

/-- Writes of one session with the same count or the same future are the same write. -/
theorem apart_place {wire : List InjectedWrite}
    (apart : wire.Pairwise fun earlier later => earlier.session = later.session →
      earlier.issued < later.issued ∧ earlier.future < later.future)
    {first second : Nat} {early late : InjectedWrite} (atFirst : wire[first]? = some early)
    (atSecond : wire[second]? = some late) (same : early.session = late.session)
    (tie : early.issued = late.issued ∨ early.future = late.future) : first = second := by
  obtain ⟨firstBound, rfl⟩ := List.getElem?_eq_some_iff.mp atFirst
  obtain ⟨secondBound, rfl⟩ := List.getElem?_eq_some_iff.mp atSecond
  rw [List.pairwise_iff_getElem] at apart
  rcases Nat.lt_trichotomy first second with before | equal | after
  · have := apart first second firstBound secondBound before same
    omega
  · exact equal
  · have := apart second first secondBound firstBound after same.symm
    omega

/-- The success response of an executed write arrives while its key is still its own: it settles
that write's future, if any. -/
theorem LinkInvariant.confirm {wire : List InjectedWrite} {executed : List Nat} {session : Nat}
    {link : Link} (invariant : LinkInvariant wire executed session link)
    (devices : ∀ write ∈ wire, write.device = injectedDevice deviceByteWrite write.issued)
    (apart : wire.Pairwise fun earlier later => earlier.session = later.session →
      earlier.issued < later.issued ∧ earlier.future < later.future)
    {place : Nat} {write : InjectedWrite} (known : wire[place]? = some write)
    (here : write.session = session) (wasExecuted : place ∈ executed)
    (prompt : link.issued - write.issued < 0x10000) :
    LinkInvariant wire executed session (link.respond write true) := by
  have member : write ∈ wire := List.mem_of_getElem? known
  have echoed : normalizeDevice (echoDevice write.device) = write.key := by
    rw [InjectedWrite.key, devices write member, normalizeDevice_echoDevice]
  rw [Link.respond, LocalControl.resolveResponse]
  rw [echoed]
  split
  · cases waits : link.control.pendingWrites.get write.key with
    | none => exact invariant
    | some future =>
      -- the write that waits under the key is the one that is confirmed
      obtain ⟨waiting, inside, same, sameKey, rfl, last⟩ := invariant.awaited _ _ waits
      obtain ⟨waitingPlace, atWaiting⟩ := List.getElem?_of_mem inside
      have later := last write member here rfl
      have issued := (invariant.past waiting inside same).2
      rw [InjectedWrite.key, InjectedWrite.key, devices waiting inside, devices write member,
        key_eq_iff] at sameKey
      -- fewer than 65536 requests apart, so the same key means the same request
      have one : waitingPlace = place :=
        apart_place apart atWaiting known (same.trans here.symm) (.inl (by omega))
      subst one
      obtain rfl : waiting = write := Option.some.inj (atWaiting.symm.trans known)
      refine { invariant with past := ?_, settled := ?_ }
      · intro other otherInside otherHere
        rw [List.length_modify]
        exact invariant.past other otherInside otherHere
      · intro otherPlace other otherKnown otherHere confirmed
        rw [List.getElem?_modify] at confirmed
        by_cases tied : waiting.future = other.future
        · have one := apart_place apart known otherKnown (here.trans otherHere.symm) (.inr tied)
          rwa [← one]
        · have old : link.control.futures[other.future]? = some (.result true) := by
            simpa [tied] using confirmed
          exact invariant.settled otherPlace other otherKnown otherHere old
  · exact invariant

/-! ## Steps of the system -/

section Steps

variable {serial : Text} {state : SetpointState}

theorem SetpointInvariant.setPhase (invariant : SetpointInvariant serial state) (place : Nat)
    (phase : WritePhase) : SetpointInvariant serial (state.setPhase place phase) :=
  ⟨invariant.wire, invariant.executed, invariant.links, invariant.sessions, invariant.given⟩

/-- A session changes in a way that keeps what it knows of the writes. -/
theorem SetpointInvariant.setLink (invariant : SetpointInvariant serial state) {session : Nat}
    {new : Link} (kept : LinkInvariant state.wire state.executed session new) :
    SetpointInvariant serial (state.setLink session new) where
  wire := invariant.wire
  executed := invariant.executed
  given := invariant.given
  sessions write member := by
    show write.session < (state.links.set session new).length
    rw [List.length_set]
    exact invariant.sessions write member
  links other link found := by
    change (state.links.set session new)[other]? = some link at found
    rw [List.getElem?_set] at found
    split at found
    · rename_i same
      split at found
      · cases found
        rwa [← same]
      · cases found
    · exact invariant.links other link found

theorem SetpointInvariant.follow (invariant : SetpointInvariant serial state) {session : Nat}
    {old new : Link} (known : state.links[session]? = some old) (follows : old.Follows new) :
    SetpointInvariant serial (state.setLink session new) :=
  invariant.setLink ((invariant.links session old known).follows follows)

theorem SetpointInvariant.connect (invariant : SetpointInvariant serial state) :
    SetpointInvariant serial { state with links := state.links ++ [.fresh] } where
  wire := invariant.wire
  executed := invariant.executed
  given := invariant.given
  sessions write member := by
    have known := invariant.sessions write member
    show write.session < (state.links ++ [Link.fresh]).length
    rw [List.length_append]
    omega
  links session link found := by
    change (state.links ++ [Link.fresh])[session]? = some link at found
    rw [List.getElem?_append] at found
    split at found
    · exact invariant.links session link found
    · rename_i beyond
      have fresh : session = state.links.length ∧ link = .fresh := by
        rw [List.getElem?_singleton] at found
        split at found
        · cases found
          exact ⟨by omega, rfl⟩
        · cases found
      obtain ⟨rfl, rfl⟩ := fresh
      -- no write was sent on the new session yet
      have unknown : ∀ write ∈ state.wire, write.session ≠ state.links.length :=
        fun write member same => absurd (invariant.sessions write member) (by omega)
      exact
        { counted := rfl
          awaited := fun key future found => nomatch found
          past := fun write member same => absurd same (unknown write member)
          settled := fun place write known same _ =>
            absurd same (unknown write (List.mem_of_getElem? known)) }

theorem setDesiredActivePowerLimit_generation (app : AppControl) (serial : Text) (percent : Nat) :
    (app.setDesiredActivePowerLimit serial percent).1.currentActivePowerLimitGeneration serial =
      (app.setDesiredActivePowerLimit serial percent).2 := by
  simp [AppControl.setDesiredActivePowerLimit, AppControl.currentActivePowerLimitGeneration]

theorem desired_of_pending {app : AppControl} {serial : Text} {pending : Nat}
    (isPending : app.pendingActivePowerLimit serial = some pending) :
    app.desiredActivePowerLimit.get serial = some pending := by
  rw [AppControl.pendingActivePowerLimit] at isPending
  split at isPending
  · cases isPending
  · split at isPending
    · cases isPending
    · rename_i desired known _
      rw [known, isPending]

/-- A command is given: its generation is a new one that no write has yet. -/
theorem SetpointInvariant.setDesired (invariant : SetpointInvariant serial state) (percent : Nat) :
    SetpointInvariant serial
      { state with app := (state.app.setDesiredActivePowerLimit serial percent).1 } := by
  have current : ((state.app.setDesiredActivePowerLimit serial percent).1
      |>.currentActivePowerLimitGeneration serial) =
        state.app.currentActivePowerLimitGeneration serial + 1 :=
    setDesiredActivePowerLimit_generation state.app serial percent
  refine ⟨{ invariant.wire with bounded := ?_, carried := ?_ }, invariant.executed, invariant.links,
    invariant.sessions, ?_⟩
  · intro write member
    rw [current]
    exact (invariant.wire.bounded write member).trans (Nat.le_succ _)
  · intro write member same
    have bounded := invariant.wire.bounded write member
    rw [current] at same
    omega
  · intro desired _
    rw [current]
    exact Nat.succ_pos _

theorem SetpointInvariant.execute (invariant : SetpointInvariant serial state) {place : Nat}
    (onWire : place < state.wire.length) (latest : ∀ earlier ∈ state.executed, earlier < place) :
    SetpointInvariant serial { state with executed := place :: state.executed } where
  wire := invariant.wire
  sessions := invariant.sessions
  given := invariant.given
  links session link found := (invariant.links session link found).execute place
  executed :=
    { inOrder := List.pairwise_cons.mpr ⟨latest, invariant.executed.inOrder⟩
      onWire := by
        intro other member
        rcases List.mem_cons.mp member with rfl | before
        · exact onWire
        · exact invariant.executed.onWire other before
      confirms := by
        intro positive
        obtain ⟨other, member, write, known, same⟩ := invariant.executed.confirms positive
        exact ⟨other, List.mem_cons_of_mem _ member, write, known, same⟩ }

/-- A generation is confirmed whose write was executed. -/
theorem SetpointInvariant.markApplied (invariant : SetpointInvariant serial state) {place : Nat}
    {write : InjectedWrite} (known : state.wire[place]? = some write)
    (wasExecuted : place ∈ state.executed) :
    SetpointInvariant serial { state with
      app := state.app.markActivePowerLimitApplied serial write.value write.generation } := by
  refine ⟨invariant.wire, { invariant.executed with confirms := ?_ }, invariant.links,
    invariant.sessions, invariant.given⟩
  intro positive
  rw [AppControl.confirmedGeneration, AppControl.markActivePowerLimitApplied] at positive ⊢
  dsimp only at positive ⊢
  split
  · refine ⟨place, wasExecuted, write, known, ?_⟩
    rw [Dict.get_set_self]
    rfl
  · -- a late confirmation of an earlier generation changes nothing
    rename_i notNewer
    rw [if_neg notNewer] at positive
    exact invariant.executed.confirms positive

theorem WireInvariant.sent {wire : List InjectedWrite} {generation : Nat} {desired : Option Nat}
    (invariant : WireInvariant wire generation desired) {write : InjectedWrite}
    (device : write.device = injectedDevice deviceByteWrite write.issued)
    (current : write.generation = generation) (carries : desired = some write.value)
    (newest : ∀ earlier ∈ wire, earlier.session = write.session →
      earlier.issued < write.issued ∧ earlier.future < write.future) :
    WireInvariant (wire ++ [write]) generation desired where
  devices other member := by
    rcases List.mem_append.mp member with before | new
    · exact invariant.devices other before
    · rw [List.mem_singleton.mp new, device]
  ordered := by
    refine List.pairwise_append.mpr ⟨invariant.ordered, List.pairwise_singleton _ _, ?_⟩
    intro earlier member later new
    rw [List.mem_singleton.mp new, current]
    exact invariant.bounded earlier member
  apart := by
    refine List.pairwise_append.mpr ⟨invariant.apart, List.pairwise_singleton _ _, ?_⟩
    intro earlier member later new
    rw [List.mem_singleton.mp new]
    exact newest earlier member
  bounded other member := by
    rcases List.mem_append.mp member with before | new
    · exact invariant.bounded other before
    · rw [List.mem_singleton.mp new, current]
  carried other member same := by
    rcases List.mem_append.mp member with before | new
    · exact invariant.carried other before same
    · rw [List.mem_singleton.mp new, carries]

theorem ExecutedInvariant.sent {wire : List InjectedWrite} {executed : List Nat} {confirmed : Nat}
    (invariant : ExecutedInvariant wire executed confirmed) (write : InjectedWrite) :
    ExecutedInvariant (wire ++ [write]) executed confirmed where
  inOrder := invariant.inOrder
  onWire place member := by
    have known := invariant.onWire place member
    rw [List.length_append]
    omega
  confirms positive := by
    obtain ⟨place, member, other, known, same⟩ := invariant.confirms positive
    refine ⟨place, member, other, ?_, same⟩
    rw [List.getElem?_append_left (invariant.onWire place member)]
    exact known

/-- A write of the current generation is sent with the desired value. -/
theorem SetpointInvariant.apply (invariant : SetpointInvariant serial state) (address : Nat)
    {session percent generation : Nat} {old link : Link} (known : state.links[session]? = some old)
    (follows : old.Follows link)
    (current : generation = state.app.currentActivePowerLimitGeneration serial)
    (desired : state.app.desiredActivePowerLimit.get serial = some percent) :
    SetpointInvariant serial
      (applyActivePowerLimit address state session link percent generation).1 := by
  have before : LinkInvariant state.wire state.executed session link :=
    (invariant.links session old known).follows follows
  rw [applyActivePowerLimit]
  dsimp only
  obtain ⟨unsent, notSent⟩ | ⟨raw, wrote⟩ :=
    writeRegister_cases link (!link.closing) address percent
  · split
    · exact invariant.follow known (follows.trans unsent)
    · exact invariant.follow known (follows.trans unsent)
    · rename_i sent same
      exact absurd same (notSent sent)
  · rw [wrote]
    dsimp only
    have numbered := nextDevice_eq deviceByteWrite before.counted
    refine
      { wire := invariant.wire.sent (by rw [numbered]) current desired ?_
        executed := invariant.executed.sent _
        given := invariant.given
        sessions := ?_
        links := ?_ }
    · intro earlier member here
      obtain ⟨future, issued⟩ := before.past earlier member here
      exact ⟨Nat.lt_succ_of_le issued, future⟩
    · intro other found isLink
      change (state.links.set session _)[other]? = some found at isLink
      rw [List.getElem?_set] at isLink
      split at isLink
      · rename_i same
        split at isLink
        · cases isLink
          rw [← same]
          exact before.sent percent generation
        · cases isLink
      · rename_i differs
        exact (invariant.links other found isLink).elsewhere differs
    · intro write member
      show write.session < (state.links.set session _).length
      rw [List.length_set]
      rcases List.mem_append.mp member with earlier | new
      · exact invariant.sessions write earlier
      · rw [List.mem_singleton.mp new]
        exact (List.getElem?_eq_some_iff.mp known).1

end Steps

end FoxessGateway.Server
