import FoxessGateway.Protocol.FaultCodes
import FoxessGateway.Protocol.RoundTrip
import FoxessGateway.Server.Daemon

/-! # Fault tracking

What a session reports of the faults of its inverter, over runs of telemetry, model changes and
everything else: `_update_fault_state` against the fault codes of the payloads. -/

namespace FoxessGateway.Server

open Protocol Effectful Action Runs

/-! ## The view -/

structure FaultView where
  model : Text
  lastFaultCode : Text
  previousFaultActive : Bool
  deriving DecidableEq, Repr

def Session.faults (session : Session) : FaultView where
  model := session.model
  lastFaultCode := session.lastFaultCode
  previousFaultActive := session.previousFaultActive

/-- What a session reports of faults. -/
inductive FaultNote where
  | observed (code : Text)
  | cleared (code : Text)
  /-- Telemetry is published, with its `fault_active` and its `last_fault_code`. -/
  | published (faultActive : Bool) (lastFaultCode : Text)
  deriving DecidableEq, Repr

def faultNote : SessionEffect → Option FaultNote
  | .emit (.faultObserved _ code _ _ _) => some (.observed code)
  | .emit (.faultCleared _ code _) => some (.cleared code)
  | .publishTelemetry telemetry _ =>
    some (.published telemetry.faultActive telemetry.lastFaultCode)
  | _ => none

/-! ## The stages -/

/-- The code and the activity that `_update_fault_state` computes. -/
theorem faultWords_code {model : Text} (payload : Bytes)
    (known : supportsAcFaultHistory model = true) :
    ((faultWords payload).any (· ≠ 0) || decide (u16 payload 98 ≠ 0)) =
        decide (telemetryFaultCode model payload ≠ []) ∧
      (if ((faultWords payload).any (· ≠ 0) || decide (u16 payload 98 ≠ 0)) = true then
        faultCodeFor (faultWords payload) (u16 payload 98) else []) =
          telemetryFaultCode model payload := by
  have active : ((faultWords payload).any (· ≠ 0) || decide (u16 payload 98 ≠ 0)) = true ↔
      ∃ offset ∈ faultOffsets, u16 payload offset ≠ 0 := by
    simp [faultWords, faultOffsets, or_comm]
  constructor
  · rw [Bool.eq_iff_iff, active, decide_eq_true_iff, telemetryFaultCode_ne_nil_iff]
    exact ⟨fun here => ⟨known, here⟩, fun both => both.2⟩
  · by_cases here : ∃ offset ∈ faultOffsets, u16 payload offset ≠ 0
    · rw [if_pos (active.mpr here)]
      exact faultCodeFor_eq known here
    · rw [if_neg fun isActive => here (active.mp isActive)]
      by_contra nonempty
      exact here (telemetryFaultCode_ne_nil_iff.mp (Ne.symm nonempty)).2

/-- The session's two computations of a fault being active agree with the code. -/
theorem decodeTelemetry_faults {payload : Bytes} {source : TelemetrySource} {telemetry : Telemetry}
    (decoded : decodeTelemetry payload source = .ok telemetry) :
    telemetry.faultActive = decide (telemetryFaultCode source.model payload ≠ []) ∧
      telemetry.lastFaultCode = source.lastFaultCode := by
  rw [decodeTelemetry] at decoded
  split at decoded
  · cases decoded
  · cases decoded
    refine ⟨?_, rfl⟩
    dsimp only
    rw [Bool.eq_iff_iff, decide_eq_true_iff, decide_eq_true_iff, telemetryFaultCode_ne_nil_iff,
      List.any_eq_true]
    simp [faultOffsets]

/-- What `_update_fault_state` does to the view, and what it reports. -/
def FaultView.update (view : FaultView) (payload : Bytes) : FaultView × List FaultNote :=
  let code := telemetryFaultCode view.model payload
  if code ≠ [] ∧ (view.previousFaultActive = false ∨ code ≠ view.lastFaultCode) then
    ({ view with lastFaultCode := code, previousFaultActive := true }, [.observed code])
  else
    ({ view with previousFaultActive := decide (code ≠ []) },
      if supportsAcFaultHistory view.model = true ∧ code = [] ∧ view.previousFaultActive = true
        then [.cleared view.lastFaultCode] else [])

theorem FaultView.update_model (view : FaultView) (payload : Bytes) :
    (view.update payload).1.model = view.model := by
  rw [FaultView.update]
  split <;> rfl

section Update

variable (view : FaultView) {payload : Bytes} {code : Text}
  (sent : telemetryFaultCode view.model payload = code)

include sent

theorem FaultView.update_active :
    (view.update payload).1.previousFaultActive = decide (code ≠ []) := by
  rw [FaultView.update, sent]
  split
  · rename_i begins
    exact (decide_eq_true begins.1).symm
  · rfl

theorem FaultView.update_code :
    (view.update payload).1.lastFaultCode =
      if code ≠ [] ∧ (view.previousFaultActive = false ∨ code ≠ view.lastFaultCode) then code
      else view.lastFaultCode := by
  rw [FaultView.update, sent]
  split <;> rfl

theorem FaultView.update_notes :
    (view.update payload).2 =
      if code ≠ [] ∧ (view.previousFaultActive = false ∨ code ≠ view.lastFaultCode) then
        [.observed code]
      else if supportsAcFaultHistory view.model = true ∧ code = [] ∧
          view.previousFaultActive = true then
        [.cleared view.lastFaultCode]
      else [] := by
  rw [FaultView.update, sent]
  split <;> rfl

end Update

theorem updateKnownFaultState_run (world : SessionWorld) (payload : Bytes) (session : Session)
    (known : supportsAcFaultHistory session.model = true) :
    ((updateKnownFaultState world payload).run session).state.faults =
        (session.faults.update payload).1 ∧
      ((updateKnownFaultState world payload).run session).effects.filterMap faultNote =
        (session.faults.update payload).2 := by
  obtain ⟨active, code⟩ := faultWords_code payload known
  unfold updateKnownFaultState FaultView.update
  rw [run_get_bind]
  dsimp only
  rw [code, active]
  have sameModel : session.faults.model = session.model := rfl
  rw [sameModel]
  generalize telemetryFaultCode session.model payload = code
  by_cases begins : code ≠ [] ∧
      (session.previousFaultActive = false ∨ code ≠ session.lastFaultCode)
  · have same : code ≠ [] ∧
        (session.faults.previousFaultActive = false ∨ code ≠ session.faults.lastFaultCode) := begins
    rw [if_pos begins, if_pos same]
    have active : decide (code ≠ []) = true := decide_eq_true begins.1
    rw [active]
    exact ⟨rfl, rfl⟩
  · have same : ¬ (code ≠ [] ∧
        (session.faults.previousFaultActive = false ∨ code ≠ session.faults.lastFaultCode)) :=
      begins
    rw [if_neg begins, if_neg same, doWhen]
    have ends : (decide (code ≠ []) = false ∧ session.previousFaultActive = true) ↔
        supportsAcFaultHistory session.model = true ∧ code = [] ∧
          session.faults.previousFaultActive = true := by
      rw [decide_eq_false_iff_not, not_not]
      exact ⟨fun both => ⟨known, both⟩, fun all => all.2⟩
    by_cases clears : decide (code ≠ []) = false ∧ session.previousFaultActive = true
    · rw [if_pos clears, if_pos (ends.mp clears)]
      exact ⟨rfl, rfl⟩
    · rw [if_neg clears, if_neg fun all => clears (ends.mpr all)]
      exact ⟨rfl, rfl⟩

theorem updateFaultState_run (world : SessionWorld) (payload : Bytes) (session : Session) :
    ((updateFaultState world payload).run session).state.faults =
        (session.faults.update payload).1 ∧
      ((updateFaultState world payload).run session).effects.filterMap faultNote =
        (session.faults.update payload).2 := by
  rw [updateFaultState, run_get_bind]
  by_cases known : supportsAcFaultHistory session.model = true
  · rw [if_pos known]
    exact updateKnownFaultState_run world payload session known
  · rw [if_neg known]
    have nothing : telemetryFaultCode session.faults.model payload = [] := by
      by_contra nonempty
      exact known (telemetryFaultCode_ne_nil_iff.mp nonempty).1
    have unknown : ¬ (supportsAcFaultHistory session.faults.model = true ∧ ([] : Text) = [] ∧
        session.faults.previousFaultActive = true) := fun all => known all.1
    rw [FaultView.update, nothing, if_neg (fun begins => begins.1 rfl), if_neg unknown]
    exact ⟨rfl, rfl⟩

/-- What telemetry does to the view, and what is reported. -/
def FaultView.telemetry (view : FaultView) (payload : Bytes) : FaultView × List FaultNote :=
  let updated := view.update payload
  (updated.1, updated.2 ++
    [.published (decide (telemetryFaultCode view.model payload ≠ [])) updated.1.lastFaultCode])

/-- The view and the reports are what `step` says. -/
abbrev TracksFaults {α : Type} (step : FaultView → FaultView × List FaultNote)
    (action : InSession α) : Prop :=
  Does Session.faults faultNote (fun before after notes => (after, notes) = step before) action

/-- The telemetry is published with the faults as the session has them. -/
theorem publishDecoded_run (world : SessionWorld) {payload : Bytes} (session : Session)
    (whole : payload.length = 238) :
    let outcome := (do
      let session ← get
      let telemetry ← attempt (decodeTelemetry payload session.telemetrySource)
      perform (.publishTelemetry telemetry (nonzeroU16Words payload))
      modify fun session => { session with lastTelemetryAt := some world.time }
      maybeSettleInverterControl : InSession Unit).run session
    outcome.state.faults = session.faults ∧ outcome.effects.filterMap faultNote =
      [.published (decide (telemetryFaultCode session.model payload ≠ []))
        session.lastFaultCode] := by
  obtain ⟨decoded, isDecoded⟩ := decodeTelemetry_ok session.telemetrySource whole
  obtain ⟨active, code⟩ := decodeTelemetry_faults isDecoded
  -- scheduling the settle task reports nothing
  have later : Leaves Session.faults (faultNote · = none) (do
      modify fun session : Session => { session with lastTelemetryAt := some world.time }
      maybeSettleInverterControl) :=
    Leaves.bind (Leaves.modify fun _ => rfl) fun _ =>
      maybeSettleInverterControl_leaves (fun _ _ => rfl) rfl
  have note : faultNote (.publishTelemetry decoded (nonzeroU16Words payload)) =
      some (.published (decide (telemetryFaultCode session.model payload ≠ []))
        session.lastFaultCode) := by
    rw [faultNote, active, code]
    rfl
  dsimp only
  rw [run_get_bind, isDecoded, run_attempt_ok_bind, run_perform_bind]
  dsimp only
  rw [List.filterMap_cons_some note, filterMap_unseen (later.shows _)]
  exact ⟨later.keeps session, rfl⟩

theorem noteTelemetry_faults (world : SessionWorld) {frame : Frame}
    (telemetry : isTelemetry frame = true) :
    TracksFaults (·.telemetry frame.payload) (noteTelemetry world frame) := by
  have whole : frame.payload.length = 238 := by
    simp only [isTelemetry, decide_eq_true_eq] at telemetry
    exact telemetry.2.2.2
  intro session
  rw [noteTelemetry, doWhen, if_pos telemetry]
  obtain ⟨value, returned⟩ := updateFaultState_total world frame.payload session
  obtain ⟨view, notes⟩ := updateFaultState_run world frame.payload session
  have sameModel : (session.faults.update frame.payload).1.model = session.model :=
    session.faults.update_model frame.payload
  obtain ⟨kept, published⟩ := publishDecoded_run world
    ((updateFaultState world frame.payload).run session).state whole
  have model : ((updateFaultState world frame.payload).run session).state.model = session.model :=
    (congrArg FaultView.model view).trans sameModel
  have code := congrArg FaultView.lastFaultCode view
  rw [run_bind_ok returned]
  dsimp only at kept published ⊢
  rw [kept, List.filterMap_append, notes, published, view, model]
  exact congrArg _ (congrArg _ (congrArg (fun code => [FaultNote.published _ code]) code))

/-! ## Frames -/

/-- What the session remembers of faults. -/
def Session.faultMemory (session : Session) : Text × Bool :=
  (session.lastFaultCode, session.previousFaultActive)

/-- The action has nothing to do with faults. -/
abbrev Faultless {τ α : Type} (view : Session → τ) (action : InSession α) : Prop :=
  Leaves view (faultNote · = none) action

theorem noteReads_faultless (config : SessionConfig) (frame : Frame) :
    Faultless Session.faults (do noteReadResponse config frame; noteReadException config frame) :=
  Leaves.bind (noteReadResponse_leaves (fun _ _ _ => rfl) (fun _ => rfl) config frame
      (fun _ _ => rfl) fun _ _ _ _ => rfl) fun _ =>
    noteReadException_leaves (fun _ _ _ => rfl) (fun _ => rfl) config frame fun _ _ _ _ => rfl

/-- A frame that is no valid telemetry leaves the memory of faults alone. -/
theorem handleFrame_faultless (config : SessionConfig) (world : SessionWorld) {frame : Frame}
    (sendBootstrap : Bool) (other : ¬ (frame.validCrc = true ∧ isTelemetry frame = true)) :
    Faultless Session.faultMemory (Session.handleFrame config world frame sendBootstrap) := by
  refine Leaves.bind Leaves.get fun session => Leaves.bind (Leaves.perform rfl) fun _ => ?_
  split
  · exact Leaves.perform rfl
  rename_i valid
  have noTelemetry : ¬ isTelemetry frame = true := fun telemetry =>
    other ⟨by simpa using valid, telemetry⟩
  refine Leaves.bind (confirmInjectedWrite_leaves frame fun _ _ _ _ => rfl) fun _ => ?_
  refine Leaves.bind (confirmCloudWrite_leaves config frame (fun _ _ => rfl) fun _ _ => rfl)
    fun _ => ?_
  refine Leaves.bind (noteRegistration_leaves world frame (fun _ _ _ _ => rfl) (fun _ _ => rfl)
    (fun _ _ => rfl) (fun _ => rfl) (fun _ => rfl) fun _ => rfl) fun _ => ?_
  have info : Faultless Session.faultMemory (noteProductInfo frame) :=
    noteProductInfo_leaves (fun _ _ => rfl) (by rfl) frame (fun _ _ _ => rfl) (fun _ _ => rfl)
      (fun _ => rfl) fun _ _ => rfl
  refine Leaves.bind info fun _ => ?_
  refine Leaves.bind (noteModuleInfo_leaves frame (fun _ _ => rfl) fun _ _ => rfl) fun _ => ?_
  refine Leaves.bind (noteMeshRole_leaves frame (fun _ _ _ => rfl) fun _ _ _ => rfl) fun _ => ?_
  refine Leaves.bind (answerBootstrap_leaves world frame sendBootstrap (fun _ _ => rfl)
    (fun _ => rfl) fun _ _ => rfl) fun _ => ?_
  refine Leaves.bind ?_ fun _ => ?_
  · rw [noteTelemetry, doWhen, if_neg noTelemetry]
    exact Leaves.pure
  · exact (noteReads_faultless config frame).coarsen fun view =>
      (view.lastFaultCode, view.previousFaultActive)

/-- Valid telemetry does what `FaultView.telemetry` says, whatever comes after it. -/
theorem handleFrame_telemetry (config : SessionConfig) (world : SessionWorld) {frame : Frame}
    (sendBootstrap : Bool) (wellFormed : frame.WellFormed) (valid : frame.validCrc = true)
    (telemetry : isTelemetry frame = true) :
    TracksFaults (·.telemetry frame.payload)
      (Session.handleFrame config world frame sendBootstrap) := by
  obtain ⟨noModule, noMesh, silent⟩ := kinds_of_isTelemetry wellFormed telemetry
  refine Leaves.totalThenDoes Leaves.get Total.get fun session =>
    Leaves.totalThenDoes (Leaves.perform rfl) Total.perform fun _ => ?_
  rw [if_neg (by rw [valid]; decide), handleValidFrame]
  refine Leaves.totalThenDoes (confirmInjectedWrite_leaves frame fun _ _ _ _ => rfl) Total.modify
    fun _ => ?_
  refine Leaves.totalThenDoes (confirmCloudWrite_leaves config frame (fun _ _ => rfl)
    fun _ _ => rfl) (confirmCloudWrite_total config frame) fun _ => ?_
  rw [noteRegistration, if_neg (by rw [isRegistration_of_isTelemetry telemetry]; decide)]
  refine Leaves.totalThenDoes (noteClientFunc_leaves frame fun _ _ => rfl) Total.modify fun _ => ?_
  rw [noteProductInfo, productInfo_of_isTelemetry telemetry, noModule, noMesh]
  refine Leaves.totalThenDoes Leaves.pure Total.pure fun _ =>
    Leaves.totalThenDoes Leaves.pure Total.pure fun _ =>
      Leaves.totalThenDoes Leaves.pure Total.pure fun _ => ?_
  refine Leaves.totalThenDoes (answerBootstrap_leaves world frame sendBootstrap (fun _ _ => rfl)
    (fun _ => rfl) fun _ _ => rfl) (answerBootstrap_total silent) fun _ => ?_
  exact (noteTelemetry_faults world telemetry).thenLeaves fun _ =>
    noteReads_faultless config frame

/-! ## Runs -/

/-- What the other tasks of a session do: none of them remembers faults. -/
structure BesidesFaults where
  change : Session → Session
  memory_kept : ∀ session, (change session).faultMemory = session.faultMemory

inductive FaultAction where
  | frame (world : SessionWorld) (wire : WireFrame) (sendBootstrap : Bool)
  | besides (activity : BesidesFaults)

/-- A frame handled: the model and the payload of valid telemetry, and what is reported. -/
structure FaultRecord where
  telemetry : Option (Text × Bytes)
  notes : List FaultNote
  deriving DecidableEq, Repr

/-- The payload of valid telemetry, and the model the session knows as it comes. -/
def Session.telemetryIn (session : Session) (frame : Frame) : Option (Text × Bytes) :=
  if frame.validCrc = true ∧ isTelemetry frame = true then some (session.model, frame.payload)
  else none

def faultMachine (config : SessionConfig) : Machine Session FaultAction FaultRecord :=
  fun session action =>
  match action with
  | .frame world wire sendBootstrap =>
    let outcome := (Session.handleFrame config world wire.frame sendBootstrap).run session
    some (outcome.state,
      [⟨session.telemetryIn wire.frame, outcome.effects.filterMap faultNote⟩])
  | .besides activity => some (activity.change session, [])

/-- The fault codes of the telemetry so far. -/
def faultCodes (history : List FaultRecord) : List Text :=
  history.filterMap fun record => record.telemetry.map fun sent => telemetryFaultCode sent.1 sent.2

/-- The code of the newest telemetry. -/
def previousCode (history : List FaultRecord) : Text := (faultCodes history).getLast?.getD []

/-- The newest code that is not empty. -/
def lastCode (history : List FaultRecord) : Text :=
  ((faultCodes history).filter (· ≠ [])).getLast?.getD []

/-- What is reported of a frame: of telemetry a fault that begins or changes, or one that ends, and
the telemetry published; of any other frame nothing. -/
def FaultBecause (before : List FaultRecord) (record : FaultRecord) : Prop :=
  match record.telemetry with
  | none => record.notes = []
  | some (model, payload) =>
    let code := telemetryFaultCode model payload
    record.notes =
      (if code ≠ [] ∧ code ≠ previousCode before then [.observed code]
      else if supportsAcFaultHistory model = true ∧ code = [] ∧ previousCode before ≠ [] then
        [.cleared (previousCode before)]
      else []) ++ [.published (decide (code ≠ [])) (lastCode (before ++ [record]))]

section History

variable (history : List FaultRecord) {record : FaultRecord}

theorem faultCodes_quiet (quiet : record.telemetry = none) :
    faultCodes (history ++ [record]) = faultCodes history := by
  rw [faultCodes, List.filterMap_append, List.filterMap_cons_none (by rw [quiet]; rfl),
    List.filterMap_nil, List.append_nil]
  rfl

theorem faultCodes_telemetry {model : Text} {payload : Bytes}
    (sent : record.telemetry = some (model, payload)) :
    faultCodes (history ++ [record]) =
      faultCodes history ++ [telemetryFaultCode model payload] := by
  rw [faultCodes, List.filterMap_append, List.filterMap_cons_some (by rw [sent]; rfl),
    List.filterMap_nil]
  rfl

/-- A fault that is still there is the last one there was. -/
theorem lastCode_of_previousCode (active : previousCode history ≠ []) :
    lastCode history = previousCode history := by
  rw [previousCode] at active
  rw [lastCode, previousCode]
  rcases List.eq_nil_or_concat (faultCodes history) with none | ⟨earlier, code, codes⟩
  · rw [none] at active
    exact absurd rfl active
  · rw [codes, List.concat_eq_append, List.getLast?_concat] at active
    have kept : [code].filter (· ≠ []) = [code] := List.filter_cons_of_pos (decide_eq_true active)
    rw [codes, List.concat_eq_append, List.getLast?_concat, List.filter_append, kept,
      List.getLast?_concat]

theorem lastCode_concat {code : Text} (codes : faultCodes (history ++ [record]) =
    faultCodes history ++ [code]) :
    lastCode (history ++ [record]) = if code ≠ [] then code else lastCode history := by
  rw [lastCode, codes, List.filter_append]
  split
  · rename_i nonempty
    rw [List.filter_cons_of_pos (by simpa using nonempty), List.filter_nil, List.getLast?_concat]
    rfl
  · rename_i empty
    rw [List.filter_cons_of_neg (by simpa using empty), List.filter_nil, List.append_nil]
    rfl

end History

/-- The session remembers the last code there was, and whether there is one now. -/
structure Remembers (session : Session) (history : List FaultRecord) : Prop where
  code : session.lastFaultCode = lastCode history
  active : session.previousFaultActive = decide (previousCode history ≠ [])

theorem Remembers.of_memory {session next : Session} {history later : List FaultRecord}
    (remembers : Remembers session history) (kept : next.faultMemory = session.faultMemory)
    (codes : faultCodes later = faultCodes history) : Remembers next later where
  code := by
    rw [lastCode, codes]
    exact (congrArg Prod.fst kept).trans remembers.code
  active := by
    rw [previousCode, codes]
    exact (congrArg Prod.snd kept).trans remembers.active

theorem remembers_fresh (config : SessionConfig) : Remembers (.fresh config) [] where
  code := rfl
  active := rfl

/-- A fault begins or changes exactly where the code differs from that of the telemetry before. -/
theorem Remembers.begins_iff {session : Session} {history : List FaultRecord} {code : Text}
    (remembers : Remembers session history) :
    (code ≠ [] ∧ (session.previousFaultActive = false ∨ code ≠ session.lastFaultCode)) ↔
      code ≠ [] ∧ code ≠ previousCode history := by
  apply and_congr_right
  intro nonempty
  by_cases active : previousCode history = []
  · -- no fault before, so that whatever is remembered of an older one does not count
    rw [remembers.active, active]
    exact iff_of_true (Or.inl rfl) nonempty
  · have stillActive : session.previousFaultActive = true :=
      remembers.active.trans (decide_eq_true active)
    rw [stillActive, remembers.code, lastCode_of_previousCode history active]
    simp

/-- The code that the session remembers after telemetry is the last one there was. -/
theorem Remembers.code_after {session : Session} {history : List FaultRecord}
    {record : FaultRecord} {payload : Bytes} (remembers : Remembers session history)
    (sent : record.telemetry = some (session.model, payload)) :
    (session.faults.update payload).1.lastFaultCode = lastCode (history ++ [record]) := by
  obtain ⟨code, here⟩ : ∃ code, telemetryFaultCode session.model payload = code := ⟨_, rfl⟩
  have codes := faultCodes_telemetry history sent
  rw [here] at codes
  rw [lastCode_concat history codes, FaultView.update_code session.faults here]
  by_cases nonempty : code = []
  · rw [if_neg fun begins => begins.1 nonempty, if_neg (not_not.mpr nonempty)]
    exact remembers.code
  · rw [if_pos nonempty]
    -- a fault that goes on is remembered already
    split
    · rfl
    · rename_i goesOn
      by_contra different
      exact goesOn ⟨nonempty, Or.inr (Ne.symm different)⟩

/-- What is reported of telemetry besides its publication. -/
theorem Remembers.notes_of {session : Session} {history : List FaultRecord} {payload : Bytes}
    {code : Text} (remembers : Remembers session history)
    (here : telemetryFaultCode session.model payload = code) :
    (session.faults.update payload).2 =
      if code ≠ [] ∧ code ≠ previousCode history then [.observed code]
      else if supportsAcFaultHistory session.model = true ∧ code = [] ∧
          previousCode history ≠ [] then
        [.cleared (previousCode history)]
      else [] := by
  rw [FaultView.update_notes session.faults here]
  refine if_ctx_congr remembers.begins_iff (fun _ => rfl) fun _ => ?_
  have ended : session.previousFaultActive = true ↔ previousCode history ≠ [] := by
    rw [remembers.active, decide_eq_true_iff]
  refine if_ctx_congr (and_congr_right fun _ => and_congr_right fun _ => ended) (fun ends => ?_)
    fun _ => rfl
  rw [← lastCode_of_previousCode history ends.2.2, ← remembers.code]
  rfl

/-- **One frame of telemetry.**  What is reported has its reason, and is remembered. -/
theorem Remembers.telemetry {session next : Session} {history : List FaultRecord}
    {record : FaultRecord} {payload : Bytes} (remembers : Remembers session history)
    (sent : record.telemetry = some (session.model, payload))
    (updated : (next.faults, record.notes) = session.faults.telemetry payload) :
    FaultBecause history record ∧ Remembers next (history ++ [record]) := by
  obtain ⟨view, notes⟩ := Prod.mk.inj updated
  have code := remembers.code_after sent
  refine ⟨?_, ?_, ?_⟩
  · rw [FaultBecause, sent]
    dsimp only
    rw [notes, code, remembers.notes_of rfl]
    rfl
  · exact (congrArg FaultView.lastFaultCode view).trans code
  · rw [previousCode, faultCodes_telemetry history sent, List.getLast?_concat]
    exact (congrArg FaultView.previousFaultActive view).trans
      (FaultView.update_active session.faults rfl)

/-- What holds of a session and of what it has reported. -/
structure Tracks (session : Session) (history : List FaultRecord) : Prop where
  justified : Justified FaultBecause history
  remembers : Remembers session history

theorem Tracks.telemetry {session next : Session} {history : List FaultRecord} {payload : Bytes}
    {notes : List FaultNote} (tracks : Tracks session history)
    (updated : (next.faults, notes) = session.faults.telemetry payload) :
    Tracks next (history ++ [⟨some (session.model, payload), notes⟩]) := by
  obtain ⟨because, remembers⟩ := tracks.remembers.telemetry
    (show FaultRecord.telemetry ⟨some (session.model, payload), notes⟩ = _ from rfl) updated
  exact ⟨justified_concat.mpr ⟨tracks.justified, because⟩, remembers⟩

theorem Tracks.quiet {session next : Session} {history : List FaultRecord}
    (tracks : Tracks session history) (kept : next.faultMemory = session.faultMemory) :
    Tracks next (history ++ [⟨none, []⟩]) where
  justified := justified_concat.mpr ⟨tracks.justified, rfl⟩
  remembers := tracks.remembers.of_memory kept (faultCodes_quiet history rfl)

/-- **One action.**  It reports what it should, and what is remembered stays true. -/
theorem Tracks.step {config : SessionConfig} {session next : Session}
    {history shown : List FaultRecord} {action : FaultAction} (tracks : Tracks session history)
    (stepped : faultMachine config session action = some (next, shown)) :
    Tracks next (history ++ shown) := by
  cases action with
  | besides activity =>
    cases stepped
    rw [List.append_nil]
    exact ⟨tracks.justified, tracks.remembers.of_memory (activity.memory_kept session) rfl⟩
  | frame world wire sendBootstrap =>
    cases stepped
    by_cases telemetry : wire.frame.validCrc = true ∧ isTelemetry wire.frame = true
    · rw [Session.telemetryIn, if_pos telemetry]
      exact tracks.telemetry (handleFrame_telemetry config world sendBootstrap wire.wellFormed
        telemetry.1 telemetry.2 session)
    · have faultless := handleFrame_faultless config world sendBootstrap telemetry
      rw [Session.telemetryIn, if_neg telemetry, filterMap_unseen (faultless.shows session)]
      exact tracks.quiet (faultless.keeps session)

theorem tracks_fresh (config : SessionConfig) : Tracks (.fresh config) [] where
  justified := justified_nil
  remembers := remembers_fresh config

/-- **Faults are tracked.**  Of every frame of a run what is reported is what the fault codes so far
call for. -/
theorem faults_tracked {config : SessionConfig} {actions : List FaultAction} {final : Session}
    {trace : List FaultRecord}
    (ran : run (faultMachine config) (.fresh config) actions = some (final, trace)) :
    Justified FaultBecause trace :=
  (run_invariant Tracks.step (tracks_fresh config) ran).justified

/-- Telemetry with one word in the newest place of the FIFO. -/
def faultFrame (word : UInt8) : WireFrame where
  frame := builtFrame marker7e [0x02, 0x00, 0x00, 0x00] 0x00
    (List.replicate 107 0x00 ++ word :: List.replicate 130 0x00) endE7
  wellFormed := builtFrame_wellFormed (.inl ⟨rfl, rfl⟩) rfl (by
    rw [List.length_append, List.length_cons, List.length_replicate, List.length_replicate]
    decide)

/-- The model becomes known, and then a fault comes and goes. -/
def faultActions : List FaultAction :=
  [.besides ⟨fun session => { session with model := "M1-E".toList }, fun _ => rfl⟩,
    .frame ⟨0, 0, none⟩ (faultFrame 0x01) false, .frame ⟨0, 0, none⟩ (faultFrame 0x00) false]

def faultTrace : List FaultRecord :=
  [⟨some ("M1-E".toList, (faultFrame 0x01).frame.payload),
      [.observed "4160".toList, .published true "4160".toList]⟩,
    ⟨some ("M1-E".toList, (faultFrame 0x00).frame.payload),
      [.cleared "4160".toList, .published false "4160".toList]⟩]

theorem faults_tracked_comesAndGoes :
    (run (faultMachine .everything) (.fresh .everything) faultActions).map Prod.snd =
        some faultTrace ∧
      Justified FaultBecause faultTrace := by
  have check : (run (faultMachine .everything) (.fresh .everything) faultActions).map Prod.snd =
      some faultTrace := by decide +kernel
  obtain ⟨⟨final, trace⟩, ran, rfl⟩ := Option.map_eq_some_iff.mp check
  exact ⟨check, faults_tracked ran⟩

end FoxessGateway.Server
