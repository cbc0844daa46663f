import FoxessGateway.Server.WriteCalls

/-! # The outcome of a write

Every interleaving of the calls on one session, as an invariant of their machine: a call returns
what the first frame with its key says, and no frame with another key has a part in it. -/

namespace FoxessGateway.Server

open ByteOrder Protocol Effectful Action Runs

/-! ## The invariant -/

/-- What the future of a call says, with the events since it was registered. -/
inductive Decided (waitFor : WaitFor) (place : Nat) (call : WriteCall)
    (future : Option (Future Bool)) (since : List CallEvent) : Prop
  /-- The future has the first answer. -/
  | isOpen (within : call.phase ≠ .expired) (unexpired : .expired place ∉ since)
      (settled : future = some (futureOf (firstAnswer call.key since)))
  /-- Up to Python 3.11 no wait is given up that has its answer. -/
  | gaveUp (phase : call.phase = .expired) (expired : .expired place ∈ since)
      (unanswered : waitFor = .wakes → firstAnswer call.key (untilExpired place since) = none)

theorem Decided.append {waitFor : WaitFor} {place : Nat} {call : WriteCall}
    {future : Option (Future Bool)} {since shown : List CallEvent}
    (decided : Decided waitFor place call future since) (silent : Silent place call.key shown) :
    Decided waitFor place call future (since ++ shown) := by
  cases decided with
  | isOpen within unexpired settled =>
    refine .isOpen within (fun member => ?_) ?_
    · exact (List.mem_append.mp member).elim unexpired silent.expires
    · rw [firstAnswer_append, silent.answers, Option.or_none]
      exact settled
  | gaveUp phase expired unanswered =>
    refine .gaveUp phase (List.mem_append_left _ expired) fun wakes => ?_
    rw [untilExpired_append expired]
    exact unanswered wakes

/-- What holds of local control, the calls and the events so far. -/
structure CallsInvariant (waitFor : WaitFor) (control : LocalControl) (calls : List WriteCall)
    (issued : Nat) (history : List CallEvent) : Prop where
  counted : control.counter = counterAfter issued
  created : control.futures.length = calls.length
  numbered : ∀ {place : Nat} {call : WriteCall}, calls[place]? = some call → call.future = place ∧
    call.device = injectedDevice deviceByteWrite call.issued ∧ call.issued ≤ issued
  ordered : ∀ {first second : Nat} {one other : WriteCall}, first < second →
    calls[first]? = some one → calls[second]? = some other → one.issued < other.issued
  near : ∀ {place : Nat} {call : WriteCall}, calls[place]? = some call → ¬ call.IsOver →
    issued - call.issued < 65536
  waits : ∀ {place : Nat} {call : WriteCall}, calls[place]? = some call → ¬ call.IsOver →
    control.pendingWrites.get call.key = some place ∧ call.key ∈ control.outstanding
  /-- An awaited write is that of a call that has not returned. -/
  entry : ∀ {key future}, control.pendingWrites.get key = some future →
    ∃ call, calls[future]? = some call ∧ ¬ call.IsOver ∧ call.key = key
  decided : ∀ {place : Nat} {call : WriteCall}, calls[place]? = some call → ¬ call.IsOver →
    ∃ since, Started history place call.device since ∧
      Decided waitFor place call control.futures[place]? since
  known : ∀ {place device}, .awaiting place device ∈ history →
    ∃ call, calls[place]? = some call ∧ call.device = device
  asked : ∀ {device}, .asked device ∈ history →
    ∃ count, device = injectedDevice deviceByteRead count
  finished : ∀ {place result}, .returned place result ∈ history →
    ∃ call, calls[place]? = some call ∧ call.IsOver

namespace CallsInvariant

variable {waitFor : WaitFor} {control after : LocalControl} {calls : List WriteCall}
  {issued : Nat} {history : List CallEvent}

/-- Two calls that wait at the same time have different keys. -/
theorem apart (holds : CallsInvariant waitFor control calls issued history) {first second : Nat}
    {one other : WriteCall} (isFirst : calls[first]? = some one)
    (isSecond : calls[second]? = some other) (firstWaits : ¬ one.IsOver)
    (secondWaits : ¬ other.IsOver) (sameKey : one.key = other.key) : first = second := by
  have firstEntry := (holds.waits isFirst firstWaits).1
  rw [sameKey, (holds.waits isSecond secondWaits).1] at firstEntry
  exact (Option.some.inj firstEntry).symm

/-- An event that begins no call, answers none and ends none. -/
structure IsAside (event : CallEvent) : Prop where
  silent : ∀ place key, Silent place key [event]
  others : ∀ place result, event ≠ .returned place result

theorem IsAside.raised (raised : PyError) : IsAside (.raised raised) :=
  ⟨fun _ _ => ⟨by simp, rfl, by simp⟩, nofun⟩

theorem IsAside.asked (device : Bytes) : IsAside (.asked device) :=
  ⟨fun _ _ => ⟨by simp, rfl, by simp⟩, nofun⟩

/-- A request that registers no future. -/
theorem number (holds : CallsInvariant waitFor control calls issued history)
    (uncrowded : ∀ call ∈ calls, ¬ call.IsOver → issued + 1 - call.issued < 65536)
    (counted : after.counter = counterAfter (issued + 1))
    (futures : after.futures = control.futures)
    (pending : after.pendingWrites = control.pendingWrites)
    (outstanding : control.outstanding ⊆ after.outstanding) {event : CallEvent}
    (aside : IsAside event)
    (asked : ∀ device, event = .asked device →
      ∃ count, device = injectedDevice deviceByteRead count) :
    CallsInvariant waitFor after calls (issued + 1) (history ++ [event]) where
  counted := counted
  created := by rw [futures, holds.created]
  numbered isCall := by
    obtain ⟨sameFuture, device, before⟩ := holds.numbered isCall
    exact ⟨sameFuture, device, by omega⟩
  ordered := holds.ordered
  near isCall := uncrowded _ (List.mem_of_getElem? isCall)
  waits isCall isWaiting := by
    obtain ⟨isEntry, isOurs⟩ := holds.waits isCall isWaiting
    exact ⟨pending ▸ isEntry, outstanding isOurs⟩
  entry isEntry := holds.entry (pending ▸ isEntry)
  decided isCall isWaiting := by
    obtain ⟨since, started, decided⟩ := holds.decided isCall isWaiting
    have silent := aside.silent
    rw [futures]
    exact ⟨_, started.append (silent _ []).begins, decided.append (silent _ _)⟩
  known member := by
    rcases List.mem_append.mp member with before | now
    · exact holds.known before
    · exact absurd now ((aside.silent _ []).begins _)
  asked member := by
    rcases List.mem_append.mp member with before | now
    · exact holds.asked before
    · exact asked _ (List.mem_singleton.mp now).symm
  finished member := by
    rcases List.mem_append.mp member with before | now
    · exact holds.finished before
    · exact absurd (List.mem_singleton.mp now).symm (aside.others _ _)

/-- A call goes on to another phase, in which it may give up its wait. -/
theorem rephase (holds : CallsInvariant waitFor control calls issued history) {place : Nat}
    {call : WriteCall} (isCall : calls[place]? = some call) (isWaiting : ¬ call.IsOver)
    {phase : CallPhase} (goesOn : phase ≠ .ended) (counter : after.counter = control.counter)
    (pending : after.pendingWrites = control.pendingWrites)
    (outstanding : after.outstanding = control.outstanding)
    (length : after.futures.length = control.futures.length)
    (futures : ∀ other, other ≠ place → after.futures[other]? = control.futures[other]?)
    {shown : List CallEvent} (aside : ∀ event ∈ shown, event = .expired place)
    (decided : ∃ since, Started (history ++ shown) place call.device since ∧
      Decided waitFor place { call with phase := phase } after.futures[place]? since) :
    CallsInvariant waitFor after
      (calls.modify place fun waiting => { waiting with phase := phase }) issued
      (history ++ shown) := by
  -- the calls differ in nothing but the phase of one that is not over before or after
  have earlier : ∀ {other : Nat} {later : WriteCall},
      (calls.modify place fun waiting => { waiting with phase := phase })[other]? = some later →
      ∃ before, calls[other]? = some before ∧ before.device = later.device ∧
        before.future = later.future ∧ before.issued = later.issued ∧
        (before.IsOver ↔ later.IsOver) := by
    intro other later found
    rw [List.getElem?_modify] at found
    obtain ⟨before, isBefore, became⟩ := Option.map_eq_some_iff.mp found
    refine ⟨before, isBefore, ?_⟩
    split at became
    · rename_i same
      rw [← same, isCall] at isBefore
      cases isBefore
      cases became
      exact ⟨rfl, rfl, rfl, iff_of_false isWaiting goesOn⟩
    · cases became
      exact ⟨rfl, rfl, rfl, Iff.rfl⟩
  have later : ∀ {other : Nat} {before : WriteCall}, calls[other]? = some before →
      ∃ after, (calls.modify place fun waiting => { waiting with phase := phase })[other]? =
        some after ∧ after.device = before.device ∧ (after.IsOver ↔ before.IsOver) := by
    intro other before isBefore
    rw [List.getElem?_modify, isBefore]
    split
    · rename_i same
      rw [← same, isCall] at isBefore
      cases isBefore
      exact ⟨_, rfl, rfl, iff_of_false goesOn isWaiting⟩
    · exact ⟨_, rfl, rfl, Iff.rfl⟩
  have before : ∀ {event : CallEvent}, event ∈ history ++ shown → event ≠ .expired place →
      event ∈ history := by
    intro event member differs
    exact (List.mem_append.mp member).resolve_right fun now => differs (aside event now)
  constructor
  case counted =>
    rw [counter, holds.counted]
  case created =>
    rw [length, List.length_modify, holds.created]
  case numbered =>
    intro other found isFound
    obtain ⟨before, isBefore, device, future, count, _⟩ := earlier isFound
    rw [← device, ← future, ← count]
    exact holds.numbered isBefore
  case ordered =>
    intro first second one other apart isFirst isSecond
    obtain ⟨before, isBefore, _, _, firstCount, _⟩ := earlier isFirst
    obtain ⟨after, isAfter, _, _, secondCount, _⟩ := earlier isSecond
    rw [← firstCount, ← secondCount]
    exact holds.ordered apart isBefore isAfter
  case near =>
    intro other found isFound waiting
    obtain ⟨before, isBefore, _, _, count, overIff⟩ := earlier isFound
    rw [← count]
    exact holds.near isBefore (mt overIff.mp waiting)
  case waits =>
    intro other found isFound waiting
    obtain ⟨before, isBefore, device, _, _, overIff⟩ := earlier isFound
    rw [WriteCall.key, ← device, pending, outstanding]
    exact holds.waits isBefore (mt overIff.mp waiting)
  case entry =>
    intro key future isEntry
    rw [pending] at isEntry
    obtain ⟨before, isBefore, waiting, sameKey⟩ := holds.entry isEntry
    obtain ⟨found, isFound, device, overIff⟩ := later isBefore
    exact ⟨found, isFound, mt overIff.mp waiting, by rw [WriteCall.key, device]; exact sameKey⟩
  case decided =>
    intro other found isFound waiting
    by_cases same : other = place
    · subst same
      rw [List.getElem?_modify_eq, isCall] at isFound
      cases isFound
      exact decided
    · rw [List.getElem?_modify_ne _ _ (Ne.symm same)] at isFound
      obtain ⟨since, started, settled⟩ := holds.decided isFound waiting
      -- what is shown is about the call at `place`
      have silent : Silent other found.key shown := by
        refine ⟨fun device now => (nomatch aside _ now), List.findSome?_eq_none_iff.mpr ?_, ?_⟩
        · intro event now
          rw [aside event now]
          rfl
        · intro now
          cases aside _ now
          exact same rfl
      rw [futures other same]
      exact ⟨_, started.append silent.begins, settled.append silent⟩
  case known =>
    intro other device member
    obtain ⟨before, isBefore, isDevice⟩ := holds.known (before member nofun)
    obtain ⟨found, isFound, sameDevice, _⟩ := later isBefore
    exact ⟨found, isFound, sameDevice.trans isDevice⟩
  case asked =>
    intro device member
    exact holds.asked (before member nofun)
  case finished =>
    intro other result member
    obtain ⟨before, isBefore, isOver⟩ := holds.finished (before member nofun)
    obtain ⟨found, isFound, _, overIff⟩ := later isBefore
    exact ⟨found, isFound, overIff.mpr isOver⟩

/-- A call registers its future under a key that no call waits with. -/
theorem register (holds : CallsInvariant waitFor control calls issued history)
    (uncrowded : ∀ call ∈ calls, ¬ call.IsOver → issued + 1 - call.issued < 65536) :
    CallsInvariant waitFor control.awaiting
      (calls ++ [⟨(control.nextDevice deviceByteWrite).2, control.futures.length, issued + 1,
        .draining⟩])
      (issued + 1)
      (history ++ [.awaiting calls.length (control.nextDevice deviceByteWrite).2]) := by
  have next := nextDevice_eq deviceByteWrite holds.counted
  have device : (control.nextDevice deviceByteWrite).2 =
      injectedDevice deviceByteWrite (issued + 1) := by rw [next]
  generalize fieldIs : (control.nextDevice deviceByteWrite).2 = field at device ⊢
  have pending : control.awaiting.pendingWrites =
      control.pendingWrites.set (normalizeDevice field) control.futures.length := by
    rw [← fieldIs]
    rfl
  have futures : control.awaiting.futures = control.futures ++ [.pending] := rfl
  have outstanding : control.awaiting.outstanding =
      insert (normalizeDevice field) control.outstanding := by
    rw [← fieldIs]
    rfl
  -- fewer than 65536 requests came after a call that still waits
  have fresh : ∀ {place : Nat} {call : WriteCall}, calls[place]? = some call → ¬ call.IsOver →
      call.key ≠ normalizeDevice field := by
    intro place call isCall waiting sameKey
    obtain ⟨_, isDevice, before⟩ := holds.numbered isCall
    rw [WriteCall.key, isDevice, device, key_eq_iff] at sameKey
    have near := uncrowded call (List.mem_of_getElem? isCall) waiting
    omega
  have old : ∀ {place : Nat} {call : WriteCall}, (calls ++
      [(⟨field, control.futures.length, issued + 1, .draining⟩ : WriteCall)])[place]? = some call →
      calls[place]? = some call ∨ (place = calls.length ∧
        call = ⟨field, control.futures.length, issued + 1, .draining⟩) := by
    intro place call isCall
    rw [List.getElem?_append] at isCall
    split at isCall
    · exact .inl isCall
    · rename_i beyond
      rw [List.getElem?_singleton] at isCall
      split at isCall
      · exact .inr ⟨by omega, (Option.some.inj isCall).symm⟩
      · cases isCall
  have kept : ∀ {place : Nat} {call : WriteCall}, calls[place]? = some call → (calls ++
      [(⟨field, control.futures.length, issued + 1, .draining⟩ : WriteCall)])[place]? =
        some call := by
    intro place call isCall
    obtain ⟨bound, _⟩ := List.getElem?_eq_some_iff.mp isCall
    rw [List.getElem?_append_left bound]
    exact isCall
  have last : (calls ++ [(⟨field, control.futures.length, issued + 1, .draining⟩ :
      WriteCall)])[control.futures.length]? =
        some ⟨field, control.futures.length, issued + 1, .draining⟩ := by
    rw [holds.created, List.getElem?_concat_length]
  constructor
  case counted =>
    show (control.nextDevice deviceByteWrite).1.counter = _
    rw [next]
  case created =>
    rw [futures, List.length_append, List.length_append, holds.created]
    rfl
  case numbered =>
    intro place call isCall
    rcases old isCall with before | ⟨rfl, rfl⟩
    · obtain ⟨sameFuture, isDevice, earlier⟩ := holds.numbered before
      exact ⟨sameFuture, isDevice, by omega⟩
    · exact ⟨holds.created, device, Nat.le_refl _⟩
  case ordered =>
    intro first second one other apart isFirst isSecond
    rcases old isFirst with before | ⟨rfl, rfl⟩
    · rcases old isSecond with alsoBefore | ⟨rfl, rfl⟩
      · exact holds.ordered apart before alsoBefore
      · exact Nat.lt_succ_of_le (holds.numbered before).2.2
    · obtain ⟨bound, _⟩ := List.getElem?_eq_some_iff.mp isSecond
      rw [List.length_append, List.length_singleton] at bound
      omega
  case near =>
    intro place call isCall waiting
    rcases old isCall with before | ⟨rfl, rfl⟩
    · exact uncrowded call (List.mem_of_getElem? before) waiting
    · show issued + 1 - (issued + 1) < 65536
      omega
  case waits =>
    intro place call isCall waiting
    rw [pending, outstanding, Dict.get_set]
    rcases old isCall with before | ⟨rfl, rfl⟩
    · rw [if_neg (fresh before waiting)]
      obtain ⟨isEntry, isOurs⟩ := holds.waits before waiting
      exact ⟨isEntry, Finset.mem_insert_of_mem isOurs⟩
    · rw [WriteCall.key, if_pos rfl, holds.created]
      exact ⟨rfl, Finset.mem_insert_self _ _⟩
  case entry =>
    intro key future isEntry
    rw [pending, Dict.get_set] at isEntry
    split at isEntry
    · rename_i isNew
      cases isEntry
      exact ⟨_, last, nofun, isNew.symm⟩
    · obtain ⟨call, isCall, waiting, sameKey⟩ := holds.entry isEntry
      exact ⟨call, kept isCall, waiting, sameKey⟩
  case decided =>
    intro place call isCall waiting
    rw [futures]
    rcases old isCall with before | ⟨rfl, rfl⟩
    · obtain ⟨bound, _⟩ := List.getElem?_eq_some_iff.mp before
      obtain ⟨since, started, settled⟩ := holds.decided before waiting
      have silent : Silent place call.key [.awaiting calls.length field] := by
        refine ⟨fun device now => ?_, rfl, by simp⟩
        cases List.mem_singleton.mp now
        omega
      rw [List.getElem?_append_left (by rw [holds.created]; exact bound)]
      exact ⟨_, started.append silent.begins, settled.append silent⟩
    · refine ⟨[], ⟨⟨history, rfl, fun other member => ?_⟩, fun _ member => nomatch member⟩,
        .isOpen nofun List.not_mem_nil ?_⟩
      · obtain ⟨call, isCall, _⟩ := holds.known member
        rw [List.getElem?_eq_none (Nat.le_refl _)] at isCall
        cases isCall
      · rw [← holds.created, List.getElem?_concat_length]
        rfl
  case known =>
    intro place other member
    rcases List.mem_append.mp member with before | now
    · obtain ⟨call, isCall, isDevice⟩ := holds.known before
      exact ⟨call, kept isCall, isDevice⟩
    · cases List.mem_singleton.mp now
      rw [← holds.created]
      exact ⟨_, last, rfl⟩
  case asked =>
    intro other member
    rcases List.mem_append.mp member with before | now
    · exact holds.asked before
    · cases List.mem_singleton.mp now
  case finished =>
    intro place result member
    rcases List.mem_append.mp member with before | now
    · obtain ⟨call, isCall, isOver⟩ := holds.finished before
      exact ⟨call, kept isCall, isOver⟩
    · cases List.mem_singleton.mp now

/-! ### Frames -/

/-- A frame settles the future under its key, or changes nothing. -/
theorem noteFrame_cases (control : LocalControl) (frame : Frame) :
    control.noteFrame frame = control ∨ ∃ future, frame.validCrc = true ∧ frame.start = marker7f ∧
      control.pendingWrites.get (normalizeDevice frame.device) = some future ∧
      control.noteFrame frame = control.settleFuture future
        (isModbusWriteSuccessResponse frame) := by
  rw [LocalControl.noteFrame]
  split
  · rename_i ours
    obtain ⟨valid, isOurs⟩ := ours
    rw [LocalControl.isOurFrame, decide_eq_true_eq] at isOurs
    rw [LocalControl.resolveResponse]
    cases waits : control.pendingWrites.get (normalizeDevice frame.device) with
    | none => exact .inl rfl
    | some future => exact .inr ⟨future, valid, isOurs.1, rfl, rfl⟩
  · exact .inl rfl

/-- A frame with the key of a call settles its future. -/
theorem noteFrame_own (holds : CallsInvariant waitFor control calls issued history) {place : Nat}
    {call : WriteCall} (isCall : calls[place]? = some call) (waiting : ¬ call.IsOver)
    {frame : Frame} (valid : frame.validCrc = true) (start : frame.start = marker7f)
    (sameKey : normalizeDevice frame.device = call.key) :
    (control.noteFrame frame).futures[place]? =
      control.futures[place]?.map (Future.settle (isModbusWriteSuccessResponse frame)) := by
  obtain ⟨isEntry, isOurs⟩ := holds.waits isCall waiting
  have ours : control.isOurFrame frame = true := by
    rw [LocalControl.isOurFrame, decide_eq_true_eq, sameKey]
    exact ⟨start, isOurs⟩
  rw [LocalControl.noteFrame, if_pos ⟨valid, ours⟩, LocalControl.resolveResponse, sameKey, isEntry]
  exact List.getElem?_modify_eq _ _ _

/-- A frame with another key settles the future of another call, if any. -/
theorem noteFrame_other (holds : CallsInvariant waitFor control calls issued history) {place : Nat}
    {call : WriteCall} (isCall : calls[place]? = some call) {frame : Frame}
    (differs : ¬ (frame.validCrc = true ∧ frame.start = marker7f ∧
      normalizeDevice frame.device = call.key)) :
    (control.noteFrame frame).futures[place]? = control.futures[place]? := by
  obtain same | ⟨future, valid, start, found, same⟩ := noteFrame_cases control frame
  · rw [same]
  · have apart : future ≠ place := by
      rintro rfl
      obtain ⟨other, isOther, _, sameKey⟩ := holds.entry found
      obtain rfl := Option.some.inj (isCall.symm.trans isOther)
      exact differs ⟨valid, start, sameKey.symm⟩
    rw [same, LocalControl.settleFuture]
    exact List.getElem?_modify_ne _ _ apart

/-- The first answer is the one that counts. -/
theorem noteFrame_decided (holds : CallsInvariant waitFor control calls issued history)
    {place : Nat} {call : WriteCall} (isCall : calls[place]? = some call)
    (waiting : ¬ call.IsOver) {since : List CallEvent}
    (decided : Decided waitFor place call control.futures[place]? since) (frame : Frame) :
    Decided waitFor place call (control.noteFrame frame).futures[place]?
      (since ++ [.handled frame]) := by
  cases decided with
  | gaveUp phase expired unanswered =>
    refine .gaveUp phase (List.mem_append_left _ expired) fun wakes => ?_
    rw [untilExpired_append expired]
    exact unanswered wakes
  | isOpen within unexpired settled =>
    refine .isOpen within (by simp [unexpired]) ?_
    rw [firstAnswer_append, firstAnswer_singleton]
    by_cases carries : frame.validCrc = true ∧ frame.start = marker7f ∧
        normalizeDevice frame.device = call.key
    · have answered : answers call.key (.handled frame) =
          some (isModbusWriteSuccessResponse frame) := if_pos carries
      obtain ⟨valid, start, sameKey⟩ := carries
      rw [answered, holds.noteFrame_own isCall waiting valid start sameKey, settled,
        Option.map_some, futureOf_settle]
    · have unanswered : answers call.key (.handled frame) = none := if_neg carries
      rw [unanswered, Option.or_none, holds.noteFrame_other isCall carries]
      exact settled

theorem noteFrame (holds : CallsInvariant waitFor control calls issued history) (frame : Frame) :
    CallsInvariant waitFor (control.noteFrame frame) calls issued
      (history ++ [.handled frame]) := by
  have same : (control.noteFrame frame).counter = control.counter ∧
      (control.noteFrame frame).pendingWrites = control.pendingWrites ∧
      (control.noteFrame frame).outstanding = control.outstanding ∧
      (control.noteFrame frame).futures.length = control.futures.length := by
    obtain same | ⟨future, _, _, _, same⟩ := noteFrame_cases control frame
    · rw [same]
      exact ⟨rfl, rfl, rfl, rfl⟩
    · rw [same]
      exact ⟨rfl, rfl, rfl, List.length_modify ..⟩
  obtain ⟨counter, pending, outstanding, length⟩ := same
  have before : ∀ {event : CallEvent}, event ∈ history ++ [CallEvent.handled frame] →
      event ∈ history ∨ event = .handled frame := by
    intro event member
    exact (List.mem_append.mp member).imp_right List.mem_singleton.mp
  constructor
  case counted =>
    rw [counter, holds.counted]
  case created =>
    rw [length, holds.created]
  case numbered =>
    exact holds.numbered
  case ordered =>
    exact holds.ordered
  case near =>
    exact holds.near
  case waits =>
    intro place call isCall waiting
    rw [pending, outstanding]
    exact holds.waits isCall waiting
  case entry =>
    intro key future isEntry
    rw [pending] at isEntry
    exact holds.entry isEntry
  case decided =>
    intro place call isCall waiting
    obtain ⟨since, started, decided⟩ := holds.decided isCall waiting
    exact ⟨_, started.append (by simp), holds.noteFrame_decided isCall waiting decided frame⟩
  case known =>
    intro place device member
    exact (before member).elim holds.known nofun
  case asked =>
    intro device member
    exact (before member).elim holds.asked nofun
  case finished =>
    intro place result member
    exact (before member).elim holds.finished nofun

/-! ### Returns -/

/-- A call returns: its entry goes, and with it no other. -/
theorem finish (holds : CallsInvariant waitFor control calls issued history) {place : Nat}
    {call : WriteCall} (isCall : calls[place]? = some call) (waiting : ¬ call.IsOver)
    (after : LocalControl) (counter : after.counter = control.counter)
    (pending : after.pendingWrites = control.pendingWrites.pop call.key)
    (outstanding : after.outstanding = control.outstanding)
    (length : after.futures.length = control.futures.length)
    (futures : ∀ other, other ≠ place → after.futures[other]? = control.futures[other]?)
    (result : WriteResult) :
    CallsInvariant waitFor after
      (calls.modify place fun waiting => { waiting with phase := .ended }) issued
      (history ++ [.returned place result]) := by
  have isEnded : (calls.modify place fun waiting => { waiting with phase := .ended })[place]? =
      some { call with phase := .ended } := by
    rw [List.getElem?_modify, isCall]
    simp
  have others : ∀ {other : Nat}, other ≠ place →
      (calls.modify place fun waiting => { waiting with phase := .ended })[other]? =
        calls[other]? := by
    intro other different
    rw [List.getElem?_modify]
    simp [Ne.symm different]
  -- a call that still waits is another one, with another key
  have stillWaits : ∀ {other : Nat} {later : WriteCall},
      (calls.modify place fun waiting => { waiting with phase := .ended })[other]? = some later →
      ¬ later.IsOver → other ≠ place ∧ calls[other]? = some later ∧ later.key ≠ call.key := by
    intro other later found isWaiting
    have different : other ≠ place := by
      rintro rfl
      rw [isEnded] at found
      cases found
      exact isWaiting rfl
    rw [others different] at found
    refine ⟨different, found, fun sameKey => ?_⟩
    exact different (holds.apart found isCall isWaiting waiting sameKey)
  have sameNumber : ∀ {other : Nat} {later : WriteCall},
      (calls.modify place fun waiting => { waiting with phase := .ended })[other]? = some later →
      ∃ before, calls[other]? = some before ∧ before.issued = later.issued := by
    intro other later found
    by_cases same : other = place
    · rw [same, isEnded] at found
      cases found
      exact ⟨call, by rw [same]; exact isCall, rfl⟩
    · exact ⟨later, (others same).symm.trans found, rfl⟩
  have exists_call : ∀ {other : Nat} {before : WriteCall}, calls[other]? = some before →
      ∃ later, (calls.modify place fun waiting => { waiting with phase := .ended })[other]? =
        some later ∧ later.device = before.device ∧ (before.IsOver → later.IsOver) := by
    intro other before isBefore
    by_cases same : other = place
    · rw [same] at isBefore ⊢
      obtain rfl := Option.some.inj (isCall.symm.trans isBefore)
      exact ⟨_, isEnded, rfl, fun _ => rfl⟩
    · exact ⟨before, (others same).trans isBefore, rfl, id⟩
  have earlier : ∀ {event : CallEvent}, event ∈ history ++ [CallEvent.returned place result] →
      event ∈ history ∨ event = .returned place result := by
    intro event member
    exact (List.mem_append.mp member).imp_right List.mem_singleton.mp
  constructor
  case counted =>
    rw [counter, holds.counted]
  case created =>
    rw [length, List.length_modify, holds.created]
  case numbered =>
    intro other later found
    by_cases same : other = place
    · rw [same, isEnded] at found
      cases found
      obtain ⟨sameFuture, device, before⟩ := holds.numbered isCall
      exact ⟨sameFuture.trans same.symm, device, before⟩
    · rw [others same] at found
      exact holds.numbered found
  case ordered =>
    intro first second one other apart isFirst isSecond
    obtain ⟨before, isBefore, firstNumber⟩ := sameNumber isFirst
    obtain ⟨after, isAfter, secondNumber⟩ := sameNumber isSecond
    rw [← firstNumber, ← secondNumber]
    exact holds.ordered apart isBefore isAfter
  case near =>
    intro other later found isWaiting
    obtain ⟨_, isLater, _⟩ := stillWaits found isWaiting
    exact holds.near isLater isWaiting
  case waits =>
    intro other later found isWaiting
    obtain ⟨_, isLater, differs⟩ := stillWaits found isWaiting
    rw [pending, Dict.get_pop, if_neg differs, outstanding]
    exact holds.waits isLater isWaiting
  case entry =>
    intro key future isEntry
    rw [pending, Dict.get_pop] at isEntry
    split at isEntry
    · cases isEntry
    · rename_i differs
      obtain ⟨other, isOther, isWaiting, sameKey⟩ := holds.entry isEntry
      have different : future ≠ place := by
        rintro rfl
        obtain rfl := Option.some.inj (isCall.symm.trans isOther)
        exact differs sameKey.symm
      exact ⟨other, (others different).trans isOther, isWaiting, sameKey⟩
  case decided =>
    intro other later found isWaiting
    obtain ⟨different, isLater, _⟩ := stillWaits found isWaiting
    obtain ⟨since, started, settled⟩ := holds.decided isLater isWaiting
    have silent : Silent other later.key [.returned place result] := ⟨by simp, rfl, by simp⟩
    rw [futures other different]
    exact ⟨_, started.append silent.begins, settled.append silent⟩
  case known =>
    intro other device member
    obtain ⟨before, isBefore, isDevice⟩ := (earlier member).elim holds.known nofun
    obtain ⟨later, isLater, sameDevice, _⟩ := exists_call isBefore
    exact ⟨later, isLater, sameDevice.trans isDevice⟩
  case asked =>
    intro device member
    exact (earlier member).elim holds.asked nofun
  case finished =>
    intro other ended member
    rcases earlier member with before | now
    · obtain ⟨before, isBefore, isOver⟩ := holds.finished before
      obtain ⟨later, isLater, _, stillOver⟩ := exists_call isBefore
      exact ⟨later, isLater, stillOver isOver⟩
    · cases now
      exact ⟨_, isEnded, rfl⟩

end CallsInvariant

/-! ## Steps -/

/-- What holds of the machine, with the events so far. -/
def CallState.Holds (waitFor : WaitFor) (state : CallState) (history : List CallEvent) : Prop :=
  ∃ control, state.session.localControl = some control ∧
    CallsInvariant waitFor control state.calls state.issued history

/-- A call that returns has the result that what came since it registered its future gives. -/
def FollowsAnswer (waitFor : WaitFor) (before : List CallEvent) : CallEvent → Prop
  | .returned place result => ∃ device since, Started before place device since ∧
      result = callResult waitFor place (normalizeDevice device) since
  | _ => True

/-- What `write_register` does where the writer is usable. -/
theorem writeRegister_usable (control : LocalControl) (address value : Nat) :
    (∃ raised, control.writeRegister true address value =
      ((control.nextDevice deviceByteWrite).1, .error raised)) ∨
    ∃ raw, control.writeRegister true address value =
      (control.awaiting, .ok (some ⟨(control.nextDevice deviceByteWrite).2, raw,
        control.futures.length⟩)) := by
  simp only [LocalControl.writeRegister]
  cases buildModbusWriteSingle (control.nextDevice deviceByteWrite).2 address value with
  | error raised => exact .inl ⟨raised, rfl⟩
  | ok raw => exact .inr ⟨raw, rfl⟩

section
variable {waitFor : WaitFor} {state : CallState} {control : LocalControl}
  {history : List CallEvent}

theorem writeRegister_holds
    (holds : CallsInvariant waitFor control state.calls state.issued history)
    (address value : Nat)
    (uncrowded : Uncrowded state (.writeRegister address value)) :
    (state.writeRegister control address value).1.Holds waitFor
      (history ++ (state.writeRegister control address value).2) := by
  rcases writeRegister_usable control address value with ⟨raised, written⟩ | ⟨raw, written⟩
  · rw [CallState.writeRegister, written]
    have next := nextDevice_eq deviceByteWrite holds.counted
    have numbered : CallsInvariant waitFor (control.nextDevice deviceByteWrite).1 state.calls
        (state.issued + 1) (history ++ [.raised raised]) := by
      apply holds.number uncrowded
      · rw [next]
      · rfl
      · rfl
      · exact fun _ => id
      · exact .raised raised
      · exact fun _ same => nomatch same
    exact ⟨_, rfl, numbered⟩
  · rw [CallState.writeRegister, written]
    exact ⟨_, rfl, holds.register uncrowded⟩

theorem readHolding_holds
    (holds : CallsInvariant waitFor control state.calls state.issued history)
    (address count : Nat)
    (expected : Option (Nat × RequestSource))
    (uncrowded : Uncrowded state (.readHolding address count expected)) :
    (state.readHolding control address count expected).1.Holds waitFor
      (history ++ (state.readHolding control address count expected).2) := by
  have next := nextDevice_eq deviceByteRead holds.counted
  simp only [CallState.readHolding, LocalControl.readHolding]
  rw [next]
  cases buildModbusReadHolding (injectedDevice deviceByteRead (state.issued + 1)) address count with
  | error raised =>
    have numbered : CallsInvariant waitFor (control.nextDevice deviceByteRead).1 state.calls
        (state.issued + 1) (history ++ [.raised raised]) := by
      apply holds.number uncrowded
      · rw [next]
      · rfl
      · rfl
      · exact fun _ => id
      · exact .raised raised
      · intro device same
        cases same
    rw [next] at numbered
    exact ⟨_, rfl, numbered⟩
  | ok raw =>
    have asked : CallsInvariant waitFor ((control.nextDevice deviceByteRead).1.addOutstanding
        (normalizeDevice (injectedDevice deviceByteRead (state.issued + 1)))) state.calls
        (state.issued + 1)
        (history ++ [.asked (injectedDevice deviceByteRead (state.issued + 1))]) := by
      apply holds.number uncrowded
      · rw [next]
        rfl
      · rfl
      · rfl
      · exact Finset.subset_insert _ _
      · exact .asked _
      · intro device same
        cases same
        exact ⟨state.issued + 1, rfl⟩
    rw [next] at asked
    exact ⟨_, rfl, asked⟩

/-- The future of no other call is cancelled. -/
theorem cancelFuture_other {future other : Nat} (differs : other ≠ future) :
    (control.cancelFuture future).futures[other]? = control.futures[other]? := by
  rw [LocalControl.cancelFuture]
  exact List.getElem?_modify_ne _ _ (Ne.symm differs)

namespace CallMoves

variable {place : Nat} {call : WriteCall} {moved : CallState × List CallEvent}

/-- What a call does keeps the invariant. -/
theorem holds (moves : CallMoves waitFor state control place call moved)
    (isControl : state.session.localControl = some control)
    (invariant : CallsInvariant waitFor control state.calls state.issued history)
    (isCall : state.calls[place]? = some call) (waiting : ¬ call.IsOver) :
    moved.1.Holds waitFor (history ++ moved.2) := by
  obtain ⟨since, started, decided⟩ := invariant.decided isCall waiting
  have isFuture := (invariant.numbered isCall).1
  cases moves with
  | waits within goesOn nearer =>
    cases decided with
    | gaveUp phase _ _ => exact absurd phase within
    | isOpen _ unexpired settled =>
      refine ⟨control, isControl, ?_⟩
      apply invariant.rephase isCall waiting ?_ rfl rfl rfl rfl (fun _ _ => rfl) (by simp)
      · rw [List.append_nil]
        refine ⟨since, started, .isOpen ?_ unexpired settled⟩
        rcases goesOn with rfl | rfl <;> exact nofun
      · rcases goesOn with rfl | rfl <;> exact nofun
  | returns within settled =>
    refine ⟨_, rfl, ?_⟩
    exact invariant.finish isCall waiting (control.forgetWrite _) rfl rfl rfl rfl
      (fun _ _ => rfl) _
  | givesUp within unanswered =>
    cases decided with
    | gaveUp phase _ _ => exact absurd phase within
    | isOpen _ unexpired settled =>
      have goesOn : CallPhase.expired ≠ .ended := nofun
      have counter : (control.cancelFuture call.future).counter = control.counter := rfl
      refine ⟨_, rfl, ?_⟩
      apply invariant.rephase isCall waiting goesOn counter rfl rfl (List.length_modify ..) ?_
        (fun _ => List.mem_singleton.mp)
      · refine ⟨_, started.append (by simp), .gaveUp rfl (by simp) fun wakes => ?_⟩
        have isPending := unanswered wakes
        rw [isFuture, settled] at isPending
        rw [untilExpired_concat unexpired]
        exact futureOf_pending (Option.some.inj isPending).symm
      · intro other differs
        exact cancelFuture_other (isFuture ▸ differs)
  | timesOut expired =>
    refine ⟨_, rfl, ?_⟩
    exact invariant.finish isCall waiting (control.forgetWrite _) rfl rfl rfl rfl
      (fun _ _ => rfl) _

/-- A call that returns follows the answers before it. -/
theorem follows (moves : CallMoves waitFor state control place call moved)
    (invariant : CallsInvariant waitFor control state.calls state.issued history)
    (justified : Justified (FollowsAnswer waitFor) history)
    (isCall : state.calls[place]? = some call) (waiting : ¬ call.IsOver) :
    Justified (FollowsAnswer waitFor) (history ++ moved.2) := by
  obtain ⟨since, started, decided⟩ := invariant.decided isCall waiting
  have isFuture := (invariant.numbered isCall).1
  cases moves with
  | waits within goesOn nearer =>
    rw [List.append_nil]
    exact justified
  | returns within settled =>
    cases decided with
    | gaveUp phase _ _ => exact absurd phase within
    | isOpen _ unexpired decided =>
      refine justified_concat.mpr ⟨justified, call.device, since, started, ?_⟩
      rw [isFuture, decided] at settled
      rw [callResult_of_unexpired unexpired]
      exact outcomeOf_result (Option.some.inj settled).symm
  | givesUp within unanswered => exact justified_concat.mpr ⟨justified, trivial⟩
  | timesOut expired =>
    cases decided with
    | isOpen within _ _ => exact absurd expired within
    | gaveUp _ early unanswered =>
      refine justified_concat.mpr ⟨justified, call.device, since, started, ?_⟩
      cases waitFor with
      | wakes =>
        rw [callResult, if_neg fun cancels => absurd cancels.1 (by decide)]
        rw [← WriteCall.key, unanswered rfl]
        rfl
      | cancels => rw [callResult, if_pos ⟨rfl, early⟩]

end CallMoves

end

/-- A step keeps the invariant. -/
theorem callMachine_holds {waitFor : WaitFor} {config : SessionConfig} {state next : CallState}
    {history shown : List CallEvent} {action : CallAction} (holds : state.Holds waitFor history)
    (uncrowded : Uncrowded state action)
    (stepped : callMachine waitFor config state action = some (next, shown)) :
    next.Holds waitFor (history ++ shown) := by
  obtain ⟨control, isControl, invariant⟩ := holds
  obtain ⟨address, value, rfl, same⟩ | ⟨address, count, expected, rfl, same⟩ |
    ⟨world, frame, sendBootstrap, rfl, rfl⟩ | ⟨place, call, isCall, waiting, moves⟩ :=
    callMachine_cases isControl stepped
  · have held := writeRegister_holds invariant address value uncrowded
    rwa [same] at held
  · have held := readHolding_holds invariant address count expected uncrowded
    rwa [same] at held
  · refine ⟨control.noteFrame frame, ?_, invariant.noteFrame frame⟩
    dsimp only
    rw [clientFrame_localControl, isControl, Option.map_some]
  · exact moves.holds isControl invariant isCall waiting

/-- What a step shows follows the answers before it. -/
theorem callMachine_followsAnswer {waitFor : WaitFor} {config : SessionConfig}
    {state next : CallState} {history shown : List CallEvent} {action : CallAction}
    (holds : state.Holds waitFor history) (justified : Justified (FollowsAnswer waitFor) history)
    (stepped : callMachine waitFor config state action = some (next, shown)) :
    Justified (FollowsAnswer waitFor) (history ++ shown) := by
  obtain ⟨control, isControl, invariant⟩ := holds
  obtain ⟨address, value, rfl, same⟩ | ⟨address, count, expected, rfl, same⟩ |
    ⟨world, frame, sendBootstrap, rfl, rfl⟩ | ⟨place, call, isCall, waiting, moves⟩ :=
    callMachine_cases isControl stepped
  · have isShown : (state.writeRegister control address value).2 = shown := congrArg Prod.snd same
    rw [← isShown, CallState.writeRegister]
    rcases writeRegister_usable control address value with ⟨raised, written⟩ | ⟨raw, written⟩
    · rw [written]
      exact justified_concat.mpr ⟨justified, trivial⟩
    · rw [written]
      exact justified_concat.mpr ⟨justified, trivial⟩
  · have isShown : (state.readHolding control address count expected).2 = shown :=
      congrArg Prod.snd same
    rw [← isShown, CallState.readHolding]
    dsimp only
    split
    · exact justified_concat.mpr ⟨justified, trivial⟩
    · exact justified_concat.mpr ⟨justified, trivial⟩
  · exact justified_concat.mpr ⟨justified, trivial⟩
  · exact moves.follows invariant justified isCall waiting

/-! ## Every interleaving -/

theorem CallsInvariant.fresh (waitFor : WaitFor) : CallsInvariant waitFor .fresh [] 0 [] where
  counted := rfl
  created := rfl
  numbered isCall := nomatch isCall
  ordered _ isCall := nomatch isCall
  near isCall := nomatch isCall
  waits isCall := nomatch isCall
  entry isEntry := nomatch isEntry
  decided isCall := nomatch isCall
  known member := nomatch member
  asked member := nomatch member
  finished member := nomatch member

/-- A run of requests that are not too many keeps the invariant. -/
theorem run_holds {waitFor : WaitFor} {config : SessionConfig} {session : Session}
    (isFresh : session.localControl = some .fresh) {actions : List CallAction} {final : CallState}
    {trace : List CallEvent}
    (uncrowded : Along (callMachine waitFor config) Uncrowded ⟨session, [], 0⟩ actions)
    (ran : run (callMachine waitFor config) ⟨session, [], 0⟩ actions = some (final, trace)) :
    final.Holds waitFor trace ∧ Justified (FollowsAnswer waitFor) trace := by
  let invariant := fun (state : CallState) history =>
    state.Holds waitFor history ∧ Justified (FollowsAnswer waitFor) history
  have initially : invariant ⟨session, [], 0⟩ [] :=
    ⟨⟨.fresh, isFresh, .fresh waitFor⟩, justified_nil⟩
  apply run_invariant_along _ initially uncrowded ran
  rintro state history action next shown ⟨holds, justified⟩ within stepped
  exact ⟨callMachine_holds holds within stepped,
    callMachine_followsAnswer holds justified stepped⟩

/-- The device field is that of a request other than the call, which was issued no more than 65535
requests before it. -/
def OtherRequest (state : CallState) (history : List CallEvent) (place : Nat) (call : WriteCall)
    (device : Bytes) : Prop :=
  .asked device ∈ history ∨ ∃ another other, another ≠ place ∧
    state.calls[another]? = some other ∧ other.device = device ∧
    call.issued < other.issued + 65536

/-- No such request has the key of a call that waits. -/
theorem CallsInvariant.otherRequest {waitFor : WaitFor} {control : LocalControl}
    {state : CallState} {history : List CallEvent}
    (holds : CallsInvariant waitFor control state.calls state.issued history) {place : Nat}
    {call : WriteCall} (isCall : state.calls[place]? = some call) (waiting : ¬ call.IsOver)
    {device : Bytes} (other : OtherRequest state history place call device) :
    normalizeDevice device ≠ call.key := by
  intro sameKey
  obtain ⟨_, isDevice, before⟩ := holds.numbered isCall
  rw [WriteCall.key, isDevice] at sameKey
  rcases other with asked | ⟨another, other, differs, isOther, rfl, recent⟩
  · -- a read has another operation in its key
    obtain ⟨count, rfl⟩ := holds.asked asked
    have operation := congrArg List.head? sameKey
    exact absurd operation (by simp [normalizeDevice, injectedDevice]; decide)
  · obtain ⟨_, otherDevice, otherBefore⟩ := holds.numbered isOther
    rw [otherDevice, key_eq_iff] at sameKey
    have near := holds.near isCall waiting
    rcases Nat.lt_or_gt_of_ne differs with first | second
    · have ordered := holds.ordered first isOther isCall
      omega
    · have ordered := holds.ordered second isCall isOther
      omega

/-- The future of a call. -/
def CallState.future (state : CallState) (place : Nat) : Option (Future Bool) :=
  state.session.localControl.bind (·.futures[place]?)

section
variable {waitFor : WaitFor} {config : SessionConfig} {state : CallState}
  {history : List CallEvent}

/-- A call that waits can go on by a step of its own. -/
theorem CallState.Holds.moves (config : SessionConfig) (holds : state.Holds waitFor history)
    {place : Nat} {call : WriteCall} (isCall : state.calls[place]? = some call)
    (waiting : ¬ call.IsOver) :
    ∃ action next shown, callMachine waitFor config state action = some (next, shown) ∧
      Uncrowded state action ∧
      ∃ control, CallMoves waitFor state control place call (next, shown) := by
  obtain ⟨control, isControl, invariant⟩ := holds
  obtain ⟨since, started, decided⟩ := invariant.decided isCall waiting
  have isFuture := (invariant.numbered isCall).1
  obtain ⟨device, future, issued, phase⟩ := call
  cases phase with
  | draining =>
    have drained : ∃ moved, state.drained waitFor control place
        ⟨device, future, issued, .draining⟩ = some moved := by
      unfold CallState.drained
      dsimp only
      split <;> exact ⟨_, rfl⟩
    obtain ⟨⟨next, shown⟩, moved⟩ := drained
    refine ⟨.drained place, next, shown, ?_, trivial, control, (CallMoves.of_drained moved).2⟩
    simp only [callMachine, isControl, isCall, Option.bind_some, moved]
  | waiting =>
    have expires : ∃ moved, state.expire waitFor control place
        ⟨device, future, issued, .waiting⟩ = some moved := by
      cases waitFor <;> exact ⟨_, rfl⟩
    obtain ⟨⟨next, shown⟩, moved⟩ := expires
    refine ⟨.expire place, next, shown, ?_, trivial, control, (CallMoves.of_expire moved).2⟩
    simp only [callMachine, isControl, isCall, Option.bind_some, moved]
  | woken =>
    have resumes : ∃ moved, state.resume control place
        ⟨device, future, issued, .woken⟩ = some moved := by
      cases decided with
      | gaveUp phase _ _ => cases phase
      | isOpen _ _ settled =>
        unfold CallState.resume
        rw [isFuture, settled]
        cases firstAnswer _ since <;> exact ⟨_, rfl⟩
    obtain ⟨⟨next, shown⟩, moved⟩ := resumes
    refine ⟨.resume place, next, shown, ?_, trivial, control, (CallMoves.of_resume moved).2⟩
    simp only [callMachine, isControl, isCall, Option.bind_some, moved]
  | expired =>
    have resumes : ∃ moved, state.resume control place
        ⟨device, future, issued, .expired⟩ = some moved := ⟨_, rfl⟩
    obtain ⟨⟨next, shown⟩, moved⟩ := resumes
    refine ⟨.resume place, next, shown, ?_, trivial, control, (CallMoves.of_resume moved).2⟩
    simp only [callMachine, isControl, isCall, Option.bind_some, moved]
  | ended => exact absurd rfl waiting

/-- A call that waits can return by steps of its own. -/
theorem CallState.Holds.returns (holds : state.Holds waitFor history) {place : Nat}
    {call : WriteCall} (isCall : state.calls[place]? = some call) (waiting : ¬ call.IsOver) :
    ∃ more reached later result, run (callMachine waitFor config) state more =
      some (reached, later) ∧ .returned place result ∈ later := by
  -- by the number of steps that are left to the call: each of them is possible, and leaves fewer
  induction left : call.phase.stepsLeft using Nat.strong_induction_on
    generalizing state history call with
  | h left inductionHypothesis =>
    obtain ⟨action, next, shown, stepped, within, control, moves⟩ :=
      holds.moves config isCall waiting
    rcases moves.nearer isCall waiting with ⟨result, returned⟩ | ⟨later, isLater, goesOn, fewer⟩
    · exact ⟨[action], next, _, result, run_step stepped rfl, List.mem_append_left _ returned⟩
    · have held := callMachine_holds holds within stepped
      obtain ⟨more, reached, shownLater, result, ran, returned⟩ :=
        inductionHypothesis _ (left ▸ fewer) held isLater goesOn rfl
      exact ⟨action :: more, reached, _, result, run_step stepped ran,
        List.mem_append_right _ returned⟩

end

/-- **The outcome of concurrent writes.**  In every interleaving in which fewer than 65536 requests
are issued while any one call waits:
* a call returns confirmed, rejected or timeout as the first frame with its key that was handled
  since it registered its future, and before it gave up its wait, is a response to a write, another
  frame, or none; and from Python 3.12 on also timeout where it gave up with such a frame;
* a frame with the key of another request does nothing to a call that waits and was issued fewer
  than 65536 requests later;
* a call that has not returned can return;
* no awaited write is left of a call that has returned. -/
theorem writeRegister_outcome (waitFor : WaitFor) (config : SessionConfig) {session : Session}
    (isFresh : session.localControl = some .fresh) {actions : List CallAction} {final : CallState}
    {trace : List CallEvent}
    (uncrowded : Along (callMachine waitFor config) Uncrowded ⟨session, [], 0⟩ actions)
    (ran : run (callMachine waitFor config) ⟨session, [], 0⟩ actions = some (final, trace)) :
    (∀ before place result after, trace = before ++ .returned place result :: after →
      ∃ device since, Started before place device since ∧
        result = callResult waitFor place (normalizeDevice device) since) ∧
    (∀ place call, final.calls[place]? = some call → ¬ call.IsOver →
      ∀ device world frame sendBootstrap next shown, OtherRequest final trace place call device →
        normalizeDevice frame.device = normalizeDevice device →
        callMachine waitFor config final (.frame world frame sendBootstrap) = some (next, shown) →
        next.future place = final.future place ∧ next.calls = final.calls) ∧
    (∀ place call, final.calls[place]? = some call → ¬ call.IsOver →
      ∃ more reached later result, run (callMachine waitFor config) final more =
        some (reached, later) ∧ .returned place result ∈ later) ∧
    ∀ place result control, .returned place result ∈ trace →
      final.session.localControl = some control →
      ∀ key, control.pendingWrites.get key ≠ some place := by
  obtain ⟨holds, justified⟩ := run_holds isFresh uncrowded ran
  have ⟨known, isKnown, invariant⟩ := holds
  refine ⟨?_, ?_, ?_, ?_⟩
  · intro before place result after split
    exact justified before _ after split
  · intro place call isCall waiting device world frame sendBootstrap next shown other
      sameKey stepped
    have differs := invariant.otherRequest isCall waiting other
    rw [← sameKey] at differs
    rw [callMachine, isKnown] at stepped
    cases stepped
    refine ⟨?_, rfl⟩
    rw [CallState.future, CallState.future]
    dsimp only
    rw [clientFrame_localControl, isKnown]
    exact invariant.noteFrame_other isCall fun carries => differs carries.2.2
  · intro place call isCall waiting
    exact holds.returns isCall waiting
  · intro place result control returned isControl key isEntry
    obtain rfl := Option.some.inj (isKnown.symm.trans isControl)
    obtain ⟨call, isCall, waiting, _⟩ := invariant.entry isEntry
    obtain ⟨same, isSame, isOver⟩ := invariant.finished returned
    obtain rfl := Option.some.inj (isCall.symm.trans isSame)
    exact waiting isOver

/-- A write whose echo comes while the write is still being sent. -/
def echoedWrite : List CallAction :=
  [.writeRegister 0xCA5A 500, .frame ⟨0, 0, none⟩ ownResponse false, .drained 0, .resume 0]

theorem writeRegister_outcome_echoed : ∃ final trace,
    run (callMachine .wakes .everything) ⟨.fresh .everything, [], 0⟩ echoedWrite =
      some (final, trace) ∧
    .returned 0 .confirmed ∈ trace ∧
    ∀ control, final.session.localControl = some control →
      ∀ key, control.pendingWrites.get key ≠ some 0 := by
  have shown : (run (callMachine .wakes .everything) ⟨.fresh .everything, [], 0⟩
      echoedWrite).map (·.2) =
      some [.awaiting 0 [0x12, 0x01, 0xf0, 0xaa], .handled ownResponse,
        .returned 0 .confirmed] := by
    decide +kernel
  obtain ⟨⟨final, trace⟩, ran, traced⟩ := Option.map_eq_some_iff.mp shown
  obtain rfl := traced
  refine ⟨final, _, ran, by simp, fun control isControl => ?_⟩
  have uncrowded : Along (callMachine .wakes .everything) Uncrowded ⟨.fresh .everything, [], 0⟩
      echoedWrite := by
    refine ⟨fun call member => ?_, fun _ _ _ => ⟨trivial, fun _ _ _ => ⟨trivial, fun _ _ _ =>
      ⟨trivial, fun _ _ _ => trivial⟩⟩⟩⟩
    exact absurd member List.not_mem_nil
  exact (writeRegister_outcome .wakes .everything rfl uncrowded ran).2.2.2 0 .confirmed control
    (by simp) isControl

/-! ## Late answers -/

theorem uncrowded_of_ended {state : CallState} (ended : ∀ call ∈ state.calls, call.IsOver)
    (action : CallAction) : Uncrowded state action := by
  cases action with
  | writeRegister address value =>
    exact fun call member waiting => absurd (ended call member) waiting
  | readHolding address count expected =>
    exact fun call member waiting => absurd (ended call member) waiting
  | drained | frame | resume | expire => trivial

/-- Any number of reads, with no call that waits. -/
theorem reads_run (waitFor : WaitFor) (config : SessionConfig) {state : CallState}
    {control : LocalControl} (isControl : state.session.localControl = some control)
    (ended : ∀ call ∈ state.calls, call.IsOver) (count : Nat) :
    Along (callMachine waitFor config) Uncrowded state
        (List.replicate count (.readHolding 0xCA5A 1 none)) ∧
      ∃ final trace after, run (callMachine waitFor config) state
          (List.replicate count (.readHolding 0xCA5A 1 none)) = some (final, trace) ∧
        final.session.localControl = some after ∧ final.calls = state.calls ∧
        final.issued = state.issued + count := by
  induction count generalizing state control with
  | zero => exact ⟨trivial, state, [], control, rfl, isControl, rfl, rfl⟩
  | succ count inductionHypothesis =>
    have stepped : callMachine waitFor config state (.readHolding 0xCA5A 1 none) =
        some (state.readHolding control 0xCA5A 1 none) := by
      rw [callMachine, isControl]
    have read : ∃ later, (state.readHolding control 0xCA5A 1 none).1.session.localControl =
          some later ∧ (state.readHolding control 0xCA5A 1 none).1.calls = state.calls ∧
        (state.readHolding control 0xCA5A 1 none).1.issued = state.issued + 1 := by
      rw [CallState.readHolding]
      dsimp only
      split <;> exact ⟨_, rfl, rfl, rfl⟩
    obtain ⟨later, isLater, sameCalls, counted⟩ := read
    have stillOver : ∀ call ∈ (state.readHolding control 0xCA5A 1 none).1.calls, call.IsOver := by
      rw [sameCalls]
      exact ended
    obtain ⟨within, final, trace, after, ran, isAfter, keeps, number⟩ :=
      inductionHypothesis isLater stillOver
    refine ⟨⟨uncrowded_of_ended ended _, fun next shown also => ?_⟩, final, _, after,
      run_step stepped ran, isAfter, keeps.trans sameCalls, by omega⟩
    obtain rfl := congrArg Prod.fst (Option.some.inj (stepped.symm.trans also))
    exact within

/-- A write that times out. -/
def lostWrite : WaitFor → List CallAction
  | .wakes => [.writeRegister 0xCA5A 500, .drained 0, .expire 0, .resume 0, .resume 0]
  | .cancels => [.writeRegister 0xCA5A 500, .drained 0, .expire 0, .resume 0]

def lostCall : WriteCall := ⟨[0x12, 0x01, 0xf0, 0xaa], 0, 1, .ended⟩

theorem lostWrite_run (waitFor : WaitFor) :
    Along (callMachine waitFor .everything) Uncrowded ⟨.fresh .everything, [], 0⟩
        (lostWrite waitFor) ∧
      ∃ final trace, run (callMachine waitFor .everything) ⟨.fresh .everything, [], 0⟩
          (lostWrite waitFor) = some (final, trace) ∧
        final.calls = [lostCall] ∧ final.issued = 1 := by
  constructor
  · cases waitFor with
    | wakes =>
      refine ⟨uncrowded_of_ended (List.forall_mem_nil _) _, fun _ _ _ => Along.of_forall ?_⟩
      intro state action member
      simp only [List.mem_cons, List.not_mem_nil, or_false] at member
      rcases member with rfl | rfl | rfl | rfl <;> trivial
    | cancels =>
      refine ⟨uncrowded_of_ended (List.forall_mem_nil _) _, fun _ _ _ => Along.of_forall ?_⟩
      intro state action member
      simp only [List.mem_cons, List.not_mem_nil, or_false] at member
      rcases member with rfl | rfl | rfl <;> trivial
  · have shown : (run (callMachine waitFor .everything) ⟨.fresh .everything, [], 0⟩
        (lostWrite waitFor)).map (fun reached => (reached.1.calls, reached.1.issued)) =
        some ([lostCall], 1) := by
      cases waitFor <;> decide +kernel
    obtain ⟨⟨final, trace⟩, ran, same⟩ := Option.map_eq_some_iff.mp shown
    exact ⟨final, trace, ran, congrArg Prod.fst same, congrArg Prod.snd same⟩

/-- The key of the lost write comes back with the 65537th request: the late answer to the one
settles the future of the other. -/
theorem lateAnswer_settles {waitFor : WaitFor} {config : SessionConfig} {state : CallState}
    {history : List CallEvent} (holds : state.Holds waitFor history)
    (calls : state.calls = [lostCall]) (issued : state.issued = 65536) :
    ∃ final begun waiting next shown,
      callMachine waitFor config state (.writeRegister 0xCA5A 500) = some (final, begun) ∧
      final.calls[0]? = some lostCall ∧ final.calls[1]? = some waiting ∧ ¬ waiting.IsOver ∧
      callMachine waitFor config final (.frame ⟨0, 0, none⟩ ownResponse false) =
        some (next, shown) ∧
      final.future 1 = some .pending ∧ next.future 1 = some (.result true) := by
  have ⟨control, isControl, known⟩ := holds
  obtain ⟨raw, wrote⟩ := writeRegister_sent control (by decide : 0xCA5A < 256 ^ 2)
    (by decide : 500 < 256 ^ 2)
  have created : control.futures.length = 1 := by
    rw [known.created, calls]
    rfl
  have ended : ∀ call ∈ state.calls, call.IsOver := by
    rw [calls]
    exact List.forall_mem_singleton.mpr rfl
  let waiting : WriteCall := ⟨(control.nextDevice deviceByteWrite).2, control.futures.length,
    state.issued + 1, .draining⟩
  have stepped : callMachine waitFor config state (.writeRegister 0xCA5A 500) =
      some (⟨(state.withControl control.awaiting).session, state.calls ++ [waiting],
        state.issued + 1⟩,
        [.awaiting state.calls.length (control.nextDevice deviceByteWrite).2]) := by
    rw [callMachine, isControl]
    dsimp only
    rw [CallState.writeRegister, wrote]
  obtain ⟨after, isAfter, invariant⟩ := callMachine_holds holds (uncrowded_of_ended ended _) stepped
  obtain rfl := Option.some.inj isAfter
  have isWaiting : (state.calls ++ [waiting])[1]? = some waiting := by
    rw [calls]
    rfl
  have sameKey : normalizeDevice ownResponse.device = waiting.key := by
    have isDevice := (invariant.numbered isWaiting).2.1
    have isNumber : waiting.issued = 65537 := congrArg (· + 1) issued
    rw [WriteCall.key, isDevice, isNumber]
    decide
  have goesOn : ¬ waiting.IsOver := by
    intro isOver
    cases isOver
  have isPending : control.awaiting.futures[1]? = some .pending := by
    rw [← created]
    exact List.getElem?_concat_length
  have handled : callMachine waitFor config
      ⟨(state.withControl control.awaiting).session, state.calls ++ [waiting], state.issued + 1⟩
      (.frame ⟨0, 0, none⟩ ownResponse false) = some _ := rfl
  refine ⟨_, _, waiting, _, _, stepped, by rw [calls]; rfl, isWaiting, goesOn, handled, isPending,
    ?_⟩
  rw [CallState.future]
  dsimp only
  rw [clientFrame_localControl]
  have settled := invariant.noteFrame_own isWaiting goesOn (by decide +kernel) rfl sameKey
  rw [isPending] at settled
  exact settled.trans (by decide +kernel)

/-- An echo, and then the timer before the coroutine has gone on. -/
def tiedWrite : List CallAction :=
  [.writeRegister 0xCA5A 500, .drained 0, .frame ⟨0, 0, none⟩ ownResponse false, .expire 0,
    .resume 0]

theorem tiedWrite_run : ∃ final,
    run (callMachine .cancels .everything) ⟨.fresh .everything, [], 0⟩ tiedWrite =
      some (final, [.awaiting 0 [0x12, 0x01, 0xf0, 0xaa], .handled ownResponse, .expired 0,
        .returned 0 .timeout]) := by
  have shown : (run (callMachine .cancels .everything) ⟨.fresh .everything, [], 0⟩
      tiedWrite).map (·.2) =
      some [.awaiting 0 [0x12, 0x01, 0xf0, 0xaa], .handled ownResponse, .expired 0,
        .returned 0 .timeout] := by
    decide +kernel
  obtain ⟨⟨final, trace⟩, ran, traced⟩ := Option.map_eq_some_iff.mp shown
  obtain rfl := traced
  exact ⟨final, ran⟩

/-- The late answer to a write settles the future of another one, issued 65536 requests later; and
from Python 3.12 on a write may time out after its answer was handled. -/
theorem writeOutcomes_mixed :
    (∀ waitFor, ¬ ∀ (actions : List CallAction) (final : CallState) (trace : List CallEvent),
      Along (callMachine waitFor .everything) Uncrowded ⟨.fresh .everything, [], 0⟩ actions →
      run (callMachine waitFor .everything) ⟨.fresh .everything, [], 0⟩ actions =
        some (final, trace) →
      ∀ (place another : Nat) (call other : WriteCall), final.calls[place]? = some call →
        ¬ call.IsOver → another ≠ place → final.calls[another]? = some other →
        ∀ world frame sendBootstrap next shown, normalizeDevice frame.device = other.key →
          callMachine waitFor .everything final (.frame world frame sendBootstrap) =
            some (next, shown) →
          next.future place = final.future place) ∧
    ¬ ∀ (actions : List CallAction) (final : CallState) (trace : List CallEvent),
      Along (callMachine .cancels .everything) Uncrowded ⟨.fresh .everything, [], 0⟩ actions →
      run (callMachine .cancels .everything) ⟨.fresh .everything, [], 0⟩ actions =
        some (final, trace) →
      ∀ before place result after, trace = before ++ .returned place result :: after →
        ∃ device since, Started before place device since ∧
          result = outcomeOf (firstAnswer (normalizeDevice device) (untilExpired place since)) := by
  constructor
  · intro waitFor claim
    obtain ⟨within, early, before, ran, calls, issued⟩ := lostWrite_run waitFor
    obtain ⟨⟨control, isControl, _⟩, _⟩ := run_holds rfl within ran
    have ended : ∀ call ∈ early.calls, call.IsOver := by
      rw [calls]
      exact List.forall_mem_singleton.mpr rfl
    obtain ⟨reading, reached, later, _, readsRan, _, sameCalls, counted⟩ :=
      reads_run waitFor .everything isControl ended 65535
    have stillOver : ∀ call ∈ reached.calls, call.IsOver := by
      rw [sameCalls]
      exact ended
    have throughReads := within.append fun middle trace also => by
      obtain rfl := congrArg Prod.fst (Option.some.inj (ran.symm.trans also))
      exact reading
    have toReads := run_trans ran readsRan
    obtain ⟨holds, _⟩ := run_holds rfl throughReads toReads
    -- one request more, and the counter is back at that of the lost write
    obtain ⟨final, begun, waiting, next, shown, stepped, isLost, isWaiting, goesOn, handled,
      isPending, settled⟩ := lateAnswer_settles holds (sameCalls.trans calls) (by omega)
    have wholeRun := run_trans toReads
      (run_step stepped (show run _ final [] = some (final, []) from rfl))
    have writing : Along (callMachine waitFor .everything) Uncrowded reached
        [.writeRegister 0xCA5A 500] :=
      ⟨uncrowded_of_ended stillOver _, fun _ _ _ => trivial⟩
    have allWithin := throughReads.append fun middle trace also => by
      obtain rfl := congrArg Prod.fst (Option.some.inj (toReads.symm.trans also))
      exact writing
    have unchanged := claim _ _ _ allWithin wholeRun 1 0 waiting lostCall isWaiting goesOn
      (by decide) isLost _ _ _ _ _ (by decide) handled
    rw [settled, isPending] at unchanged
    cases unchanged
  · intro claim
    obtain ⟨final, ran⟩ := tiedWrite_run
    have within : Along (callMachine .cancels .everything) Uncrowded ⟨.fresh .everything, [], 0⟩
        tiedWrite := by
      refine ⟨uncrowded_of_ended (List.forall_mem_nil _) _, fun _ _ _ => Along.of_forall ?_⟩
      intro state action member
      simp only [List.mem_cons, List.not_mem_nil, or_false] at member
      rcases member with rfl | rfl | rfl | rfl <;> trivial
    obtain ⟨device, since, started, result⟩ := claim _ _ _ within ran
      [.awaiting 0 [0x12, 0x01, 0xf0, 0xaa], .handled ownResponse, .expired 0] 0 .timeout [] rfl
    -- the call returns a timeout, and its answer came before the timer
    obtain ⟨rfl, rfl⟩ := started.eq_of_cons
    revert result
    decide +kernel

end FoxessGateway.Server
