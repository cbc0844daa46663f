import FoxessGateway.Server.WriteOutcome

/-! # Transaction ids

The counters of a session's requests start far above those of the cloud.  They stay there until
the counter wraps. -/

namespace FoxessGateway.Server

open ByteOrder Protocol Runs

/-! ## What is done with local control -/

/-- `write_register` with a timeout that is not positive, up to `_send`. -/
def LocalControl.writeUnawaited (control : LocalControl) (address value : Nat) :
    LocalControl × Except PyError Bytes :=
  let (numbered, device) := control.nextDevice deviceByteWrite
  match buildModbusWriteSingle device address value with
  | .error raised => (numbered, .error raised)
  | .ok raw => (numbered.addOutstanding (normalizeDevice device), .ok raw)

inductive ControlAction where
  | writeRegister (writable : Bool) (address value : Nat)
  | writeUnawaited (address value : Nat)
  | readHolding (address count : Nat)
  | resolveResponse (device : Bytes) (confirmed : Bool)
  | observeSessionMarker (marker : UInt8)
  /-- The `finally` block of a call. -/
  | forgetWrite (key : Bytes)
  | cancelFuture (future : Nat)

/-- The local control of a session, which shows the device field of every call. -/
def controlMachine : Machine LocalControl ControlAction Bytes := fun control action =>
  match action with
  | .writeRegister writable address value =>
    some ((control.writeRegister writable address value).1,
      [(control.nextDevice deviceByteWrite).2])
  | .writeUnawaited address value =>
    some ((control.writeUnawaited address value).1, [(control.nextDevice deviceByteWrite).2])
  | .readHolding address count =>
    some ((control.readHolding address count).1, [(control.nextDevice deviceByteRead).2])
  | .resolveResponse device confirmed => some (control.resolveResponse device confirmed, [])
  | .observeSessionMarker marker => some ((control.observeSessionMarker marker).1, [])
  | .forgetWrite key => some (control.forgetWrite key, [])
  | .cancelFuture future => some (control.cancelFuture future, [])

/-! ## Counters -/

/-- The transaction counter of a device field. -/
def transactionCounter (device : Bytes) : Nat := fromBig (slice device 1 3).reverse

theorem transactionCounter_normalizeDevice (device : Bytes) :
    transactionCounter (normalizeDevice device) = transactionCounter device := by
  cases device with
  | nil => rfl
  | cons first rest =>
    simp only [transactionCounter, normalizeDevice, slice, List.take_succ_cons, List.take_take,
      List.drop_succ_cons, List.drop_zero]
    rfl

theorem transactionCounter_injectedDevice (opType : UInt8) (issued : Nat) :
    transactionCounter (injectedDevice opType issued) = counterAfter issued := by
  have small : counterAfter issued < 0x10000 := Nat.mod_lt _ (by decide)
  have bytes : transactionCounter (injectedDevice opType issued) =
      (UInt8.ofNat ((counterAfter issued >>> 8) &&& 0xFF)).toNat * 256 +
        (UInt8.ofNat (counterAfter issued &&& 0xFF)).toNat := by
    simp [transactionCounter, injectedDevice, slice, fromBig]
  rw [bytes, low_byte_toNat, low_byte_toNat, Nat.shiftRight_eq_div_pow]
  omega

/-- No device field carries a counter of the cloud's range, and no frame with such a counter is
taken for an answer to a request of ours. -/
structure KeptApart (control : LocalControl) (devices : List Bytes) : Prop where
  produced : ∀ device ∈ devices, injectedCounterStart ≤ transactionCounter device
  cloud : ∀ frame : Frame, transactionCounter frame.device < injectedCounterStart →
    control.isOurFrame frame = false

/-! ## The invariant -/

/-- What local control and the device fields it has produced have in common. -/
structure Numbers (control : LocalControl) (devices : List Bytes) : Prop where
  counted : control.counter = counterAfter devices.length
  produced : ∀ {place : Nat} {device : Bytes}, devices[place]? = some device →
    ∃ opType, device = injectedDevice opType (place + 1)
  outstanding : ∀ key ∈ control.outstanding, ∃ device ∈ devices, normalizeDevice device = key

variable {control after : LocalControl} {devices : List Bytes}

/-- A step that numbers no request. -/
theorem Numbers.keep (holds : Numbers control devices) (counter : after.counter = control.counter)
    (outstanding : after.outstanding = control.outstanding) : Numbers after devices where
  counted := counter.trans holds.counted
  produced := holds.produced
  outstanding key member := holds.outstanding key (outstanding ▸ member)

/-- A call, also one that raises, takes the next number. -/
theorem Numbers.number (holds : Numbers control devices) (opType : UInt8)
    (counter : after.counter = (control.nextDevice opType).1.counter)
    (outstanding : ∀ key ∈ after.outstanding, key ∈ control.outstanding ∨
      key = normalizeDevice (control.nextDevice opType).2) :
    Numbers after (devices ++ [(control.nextDevice opType).2]) := by
  have next := nextDevice_eq opType holds.counted
  constructor
  case counted =>
    rw [counter, next, List.length_append]
    rfl
  case produced =>
    intro place device found
    rw [List.getElem?_append] at found
    split at found
    · exact holds.produced found
    · rw [List.getElem?_singleton] at found
      split at found
      · rename_i last
        refine ⟨opType, ?_⟩
        rw [← Option.some.inj found, next, show place = devices.length by omega]
      · cases found
  case outstanding =>
    intro key member
    rcases outstanding key member with before | rfl
    · obtain ⟨device, among, isKey⟩ := holds.outstanding key before
      exact ⟨device, List.mem_append_left _ among, isKey⟩
    · exact ⟨_, List.mem_append_right _ (List.mem_singleton_self _), rfl⟩

theorem mem_addOutstanding {key other : Bytes}
    (member : other ∈ (control.addOutstanding key).outstanding) :
    other ∈ control.outstanding ∨ other = key :=
  (Finset.mem_insert.mp member).symm

theorem controlMachine_numbers {action : ControlAction} {shown : List Bytes}
    (holds : Numbers control devices)
    (stepped : controlMachine control action = some (after, shown)) :
    Numbers after (devices ++ shown) := by
  cases action with
  | writeRegister writable address value =>
    cases stepped
    apply holds.number deviceByteWrite
    · rw [LocalControl.writeRegister]
      dsimp only
      split
      · rfl
      · cases writable <;> rfl
    · intro key member
      rw [LocalControl.writeRegister] at member
      dsimp only at member
      split at member
      · exact .inl member
      · cases writable <;> exact mem_addOutstanding member
  | writeUnawaited address value =>
    cases stepped
    apply holds.number deviceByteWrite
    · rw [LocalControl.writeUnawaited]
      dsimp only
      split <;> rfl
    · intro key member
      rw [LocalControl.writeUnawaited] at member
      dsimp only at member
      split at member
      · exact .inl member
      · exact mem_addOutstanding member
  | readHolding address count =>
    cases stepped
    apply holds.number deviceByteRead
    · rw [LocalControl.readHolding]
      dsimp only
      split <;> rfl
    · intro key member
      rw [LocalControl.readHolding] at member
      dsimp only at member
      split at member
      · exact .inl member
      · exact mem_addOutstanding member
  | resolveResponse device confirmed =>
    cases stepped
    rw [List.append_nil]
    apply holds.keep
    · rw [LocalControl.resolveResponse]
      split <;> rfl
    · exact LocalControl.resolveResponse_outstanding _ device confirmed
  | observeSessionMarker marker =>
    cases stepped
    rw [List.append_nil]
    apply holds.keep
    · rw [LocalControl.observeSessionMarker]
      split <;> rfl
    · rw [LocalControl.observeSessionMarker]
      split <;> rfl
  | forgetWrite key =>
    cases stepped
    rw [List.append_nil]
    exact holds.keep rfl rfl
  | cancelFuture future =>
    cases stepped
    rw [List.append_nil]
    exact holds.keep rfl rfl

theorem Numbers.fresh : Numbers .fresh [] where
  counted := rfl
  produced found := nomatch found
  outstanding _ member := absurd member (Finset.notMem_empty _)

theorem controlRun_numbers {actions : List ControlAction} {final : LocalControl}
    {devices : List Bytes} (ran : run controlMachine .fresh actions = some (final, devices)) :
    Numbers final devices := by
  have holds : Numbers final ([] ++ devices) :=
    run_invariant controlMachine_numbers Numbers.fresh ran
  exact holds

/-! ## Until the counter wraps -/

theorem counterAfter_le_iff {issued : Nat} (few : issued ≤ 0x1000) :
    injectedCounterStart ≤ counterAfter issued ↔ issued < 0x1000 := by
  unfold counterAfter injectedCounterStart
  omega

/-- Before the counter wraps, no number of ours is one of the cloud's. -/
theorem Numbers.keptApart (holds : Numbers control devices) (few : devices.length < 0x1000) :
    KeptApart control devices := by
  have produced : ∀ device ∈ devices, injectedCounterStart ≤ transactionCounter device := by
    intro device member
    obtain ⟨place, bound, found⟩ := List.getElem_of_mem member
    obtain ⟨opType, rfl⟩ := holds.produced (List.getElem?_eq_some_iff.mpr ⟨bound, found⟩)
    rw [transactionCounter_injectedDevice]
    exact (counterAfter_le_iff (by omega)).mpr (by omega)
  -- an outstanding key comes from a device field of ours, and keeps its counter
  refine ⟨produced, fun frame below => ?_⟩
  rw [LocalControl.isOurFrame, decide_eq_false_iff_not]
  rintro ⟨_, member⟩
  obtain ⟨device, among, sameKey⟩ := holds.outstanding _ member
  have counter : transactionCounter frame.device = transactionCounter device := by
    rw [← transactionCounter_normalizeDevice frame.device, ← sameKey,
      transactionCounter_normalizeDevice]
  rw [counter] at below
  exact absurd (produced device among) (Nat.not_le.mpr below)

/-- The device field of the call in which the counter wraps. -/
theorem Numbers.wrapped (holds : Numbers control devices) (many : 0x1000 ≤ devices.length) :
    ∃ device ∈ devices, transactionCounter device = 0 := by
  -- the 4096th number is the first after the greatest
  have bound : 0xFFF < devices.length := by omega
  obtain ⟨opType, isField⟩ := holds.produced (List.getElem?_eq_getElem bound)
  refine ⟨_, List.getElem_mem bound, ?_⟩
  rw [isField, transactionCounter_injectedDevice]
  rfl

/-- **Transaction ids apart from the cloud's.**  After any run of local control, the counters of
its device fields have stayed in the upper range, and no frame with a counter of the cloud's is
taken for ours, exactly where no more than 4095 calls have been made. -/
theorem transactionIds_apart_iff {actions : List ControlAction} {final : LocalControl}
    {devices : List Bytes} (ran : run controlMachine .fresh actions = some (final, devices)) :
    KeptApart final devices ↔ devices.length ≤ 4095 := by
  have holds := controlRun_numbers ran
  constructor
  · intro apart
    by_contra many
    obtain ⟨device, member, counter⟩ := holds.wrapped (by omega)
    have high := apart.produced device member
    rw [counter] at high
    exact absurd high (by decide)
  · intro few
    exact holds.keptApart (by omega)

theorem transactionIds_apart_iff_twoCalls : ∃ final devices,
    run controlMachine .fresh [.writeRegister true 0xCA5A 500, .readHolding 0xCA5A 1] =
      some (final, devices) ∧
    devices = [[0x12, 0x01, 0xF0, 0xAA], [0x11, 0x02, 0xF0, 0xAA]] ∧ KeptApart final devices := by
  have ran : run controlMachine .fresh [.writeRegister true 0xCA5A 500, .readHolding 0xCA5A 1] =
      some _ := rfl
  exact ⟨_, _, ran, rfl, (transactionIds_apart_iff ran).mpr (by decide)⟩

/-! ## The wrapped counter -/

/-- Readbacks of the limit, one after the other. -/
def readbacks (count : Nat) : List ControlAction := List.replicate count (.readHolding 0xCA5A 1)

theorem readbacks_run (count : Nat) : ∃ final devices,
    run controlMachine .fresh (readbacks count) = some (final, devices) ∧
    devices.length = count := by
  induction count with
  | zero => exact ⟨_, _, rfl, rfl⟩
  | succ count inductionHypothesis =>
    obtain ⟨final, devices, ran, counted⟩ := inductionHypothesis
    have stepped : controlMachine final (.readHolding 0xCA5A 1) = _ := rfl
    rw [readbacks, List.replicate_succ']
    refine ⟨_, _, run_trans ran (run_step stepped rfl), ?_⟩
    rw [List.length_append, counted]
    rfl

/-- The cloud reads the limit, with a counter of zero and the marker that is also ours. -/
def cloudReadback : Frame :=
  builtFrame marker7f [0x11, 0x00, 0x00, 0xAA] commandEnvelopeFunc
    [0x01, 0x03, 0xCA, 0x5A, 0x00, 0x01] endF7

theorem cloudReadback_wellFormed : cloudReadback.WellFormed :=
  builtFrame_wellFormed (.inr ⟨rfl, rfl⟩) rfl (by decide)

/-- The call in which the counter wraps makes a request of the cloud one of ours. -/
theorem readbacks_take_cloudReadback {control after : LocalControl} {devices shown : List Bytes}
    (holds : Numbers control devices) (many : devices.length = 0xFFF)
    (stepped : controlMachine control (.readHolding 0xCA5A 1) = some (after, shown)) :
    after.isOurFrame cloudReadback = true := by
  have next := nextDevice_eq deviceByteRead holds.counted
  rw [many] at next
  obtain ⟨raw, built⟩ := buildModbusRequest_ok modbusFnReadHolding
    (injectedDevice deviceByteRead 0x1000) (show 0xCA5A < 256 ^ 2 by decide)
    (show 1 < 256 ^ 2 by decide)
  have key : normalizeDevice (injectedDevice deviceByteRead 0x1000) =
      normalizeDevice cloudReadback.device := by decide
  cases stepped
  rw [LocalControl.isOurFrame, decide_eq_true_iff, LocalControl.readHolding, next,
    buildModbusReadHolding]
  dsimp only
  rw [built]
  exact ⟨rfl, key ▸ Finset.mem_insert_self _ _⟩

/-- In the 4096th call of a session a well formed frame of the cloud's becomes one of ours. -/
theorem transactionIds_wrap : ∃ (actions : List ControlAction) (final : LocalControl)
    (devices : List Bytes) (frame : Frame),
    run controlMachine .fresh actions = some (final, devices) ∧ frame.WellFormed ∧
      transactionCounter frame.device < injectedCounterStart ∧ final.isOurFrame frame = true ∧
      ¬ KeptApart final devices := by
  obtain ⟨final, devices, ran, counted⟩ := readbacks_run 0xFFF
  have stepped : controlMachine final (.readHolding 0xCA5A 1) = _ := rfl
  have ours := readbacks_take_cloudReadback (controlRun_numbers ran) counted stepped
  have ended : run controlMachine (final.readHolding 0xCA5A 1).1 [] = some (_, []) := rfl
  have below : transactionCounter cloudReadback.device < injectedCounterStart := by decide
  refine ⟨_, _, _, cloudReadback, run_trans ran (run_step stepped ended), cloudReadback_wellFormed,
    below, ours, fun apart => ?_⟩
  rw [apart.cloud cloudReadback below] at ours
  cases ours

/-! ## The calls on a session -/

/-- What a step of the calls on a session does with its local control. -/
theorem callMachine_controls {waitFor : WaitFor} {config : SessionConfig} {state next : CallState}
    {action : CallAction} {shown : List CallEvent}
    (isControl : state.session.localControl = some control)
    (stepped : callMachine waitFor config state action = some (next, shown)) :
    ∃ actions after devices, run controlMachine control actions = some (after, devices) ∧
      next.session.localControl = some after ∧ next.issued = state.issued + devices.length := by
  obtain ⟨address, value, rfl, same⟩ | ⟨address, count, expected, rfl, same⟩ |
    ⟨world, frame, sendBootstrap, rfl, rfl⟩ | ⟨place, call, isCall, waiting, moves⟩ :=
    callMachine_cases isControl stepped
  · refine ⟨[.writeRegister true address value], _, _, rfl, ?_⟩
    obtain rfl := congrArg Prod.fst same
    rw [CallState.writeRegister]
    dsimp only
    split <;> exact ⟨rfl, rfl⟩
  · refine ⟨[.readHolding address count], _, _, rfl, ?_⟩
    obtain rfl := congrArg Prod.fst same
    rw [CallState.readHolding]
    dsimp only
    split <;> exact ⟨rfl, rfl⟩
  · dsimp only
    rw [clientFrame_localControl, isControl, Option.map_some, LocalControl.noteFrame]
    split
    · exact ⟨[.resolveResponse frame.device (isModbusWriteSuccessResponse frame)], _, _, rfl, rfl,
        rfl⟩
    · exact ⟨[], control, [], rfl, rfl, rfl⟩
  · cases moves with
    | waits within goesOn => exact ⟨[], control, [], rfl, isControl, rfl⟩
    | returns within settled => exact ⟨[.forgetWrite _], _, _, rfl, rfl, rfl⟩
    | givesUp within unanswered => exact ⟨[.cancelFuture _], _, _, rfl, rfl, rfl⟩
    | timesOut expired => exact ⟨[.forgetWrite _], _, _, rfl, rfl, rfl⟩

/-- The local control of a session after any run of its calls. -/
theorem callRun_controls {waitFor : WaitFor} {config : SessionConfig} {session : Session}
    (isFresh : session.localControl = some .fresh) {calls : List CallAction} {final : CallState}
    {trace : List CallEvent}
    (ran : run (callMachine waitFor config) ⟨session, [], 0⟩ calls = some (final, trace)) :
    ∃ actions control devices, run controlMachine .fresh actions = some (control, devices) ∧
      final.session.localControl = some control ∧ final.issued = devices.length := by
  apply run_preserves
    (fun state => ∃ actions control devices,
      run controlMachine .fresh actions = some (control, devices) ∧
        state.session.localControl = some control ∧ state.issued = devices.length) ?_ ?_ ran
  · rintro state call next shown ⟨actions, control, devices, reached, isControl, issued⟩ stepped
    obtain ⟨more, after, others, continued, isAfter, counted⟩ :=
      callMachine_controls isControl stepped
    refine ⟨_, after, _, run_trans reached continued, isAfter, ?_⟩
    rw [counted, issued, List.length_append]
  · exact ⟨[], _, _, rfl, isFresh, rfl⟩

/-- A session that has issued no more than 4095 requests takes no frame of the cloud's for its
own. -/
theorem callRun_apart {waitFor : WaitFor} {config : SessionConfig} {session : Session}
    (isFresh : session.localControl = some .fresh) {calls : List CallAction} {final : CallState}
    {trace : List CallEvent}
    (ran : run (callMachine waitFor config) ⟨session, [], 0⟩ calls = some (final, trace))
    (few : final.issued ≤ 4095) {frame : Frame}
    (below : transactionCounter frame.device < injectedCounterStart) :
    ∃ control, final.session.localControl = some control ∧ control.isOurFrame frame = false := by
  obtain ⟨actions, control, devices, reached, isControl, issued⟩ := callRun_controls isFresh ran
  have apart := (controlRun_numbers reached).keptApart (by omega)
  exact ⟨control, isControl, apart.cloud frame below⟩

end FoxessGateway.Server
