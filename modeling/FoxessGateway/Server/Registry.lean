import FoxessGateway.Server.DaemonSteps

/-! # The registry of sessions

`sessions_by_serial` gets an entry at every registration and loses one when `handle_client`
finishes.  When its entries are of open sessions, and when they are of the right one. -/

namespace FoxessGateway.Server

open Protocol Runs

/-! ## Entries and open sessions -/

namespace Daemon

/-- The serial a session has now. -/
def serialOf (daemon : Daemon) (session : Nat) : Option Text :=
  (daemon.controlOf session).bind ControlView.knownSerial

theorem serialOf_eq {daemon : Daemon} {session : Nat} {view : ControlView}
    (known : daemon.controlOf session = some view) :
    daemon.serialOf session = view.knownSerial := by
  rw [serialOf, known]
  rfl

theorem SameControl.serialOf {daemon next : Daemon} (same : daemon.SameControl next)
    (session : Nat) : next.serialOf session = daemon.serialOf session := by
  rw [Daemon.serialOf, Daemon.serialOf, same.controls]

theorem bound_of_isOpen {daemon : Daemon} {session : Nat} (isOpen : daemon.IsOpen session) :
    session < daemon.connections.length := by
  obtain ⟨connection, found, _⟩ := isOpen
  exact (List.getElem?_eq_some_iff.mp found).1

theorem serialOf_bound {daemon : Daemon} {session : Nat} {serial : Text}
    (known : daemon.serialOf session = some serial) : session < daemon.connections.length := by
  obtain ⟨view, isView, _⟩ := Option.bind_eq_some_iff.mp known
  obtain ⟨connection, found, _⟩ := Option.map_eq_some_iff.mp isView
  exact (List.getElem?_eq_some_iff.mp found).1

variable {config : DaemonConfig} {daemon next : Daemon} {shown : List DaemonEvent}

/-- A new session has no serial. -/
theorem connect_serialOf (stepped : daemonMachine config daemon .connect = some (next, shown))
    (session : Nat) : next.serialOf session = daemon.serialOf session := by
  obtain ⟨_, _, _, _, controls, _⟩ := connect_step stepped
  rw [serialOf, controls]
  split
  · rename_i isNew
    cases known : daemon.serialOf session with
    | none => rfl
    | some serial =>
      have := serialOf_bound known
      omega
  · rfl

/-- What a frame does to the serials of the sessions. -/
theorem FrameDone.serialOf {session : Nat} {after : ControlView} {tables : Tables}
    (done : daemon.FrameDone session after tables next) (other : Nat) :
    next.serialOf other = if other = session then after.knownSerial else daemon.serialOf other := by
  rw [Daemon.serialOf, done.controls]
  split <;> rfl

end Daemon

/-- The session that registered under the serial. -/
def registeredAs (serial : Text) : DaemonEvent → Option Nat
  | .registered named session => if named = serial then some session else none
  | _ => none

/-- The session whose registration under the serial was the last to be handled. -/
def lastRegistered (serial : Text) (trace : List DaemonEvent) : Option Nat :=
  (trace.filterMap (registeredAs serial)).getLast?

theorem lastRegistered_registered (serial named : Text) (session : Nat) (trace : List DaemonEvent) :
    lastRegistered serial (trace ++ [.registered named session]) =
      if named = serial then some session else lastRegistered serial trace := by
  by_cases same : named = serial
  · simp [lastRegistered, registeredAs, same]
  · simp [lastRegistered, registeredAs, same]

/-- Requests and recorded setpoints are no registrations. -/
theorem lastRegistered_other (serial : Text) (trace : List DaemonEvent) {shown : List DaemonEvent}
    (others : ∀ named session, .registered named session ∉ shown) :
    lastRegistered serial (trace ++ shown) = lastRegistered serial trace := by
  have nothing : shown.filterMap (registeredAs serial) = [] := by
    apply List.filterMap_eq_nil_iff.mpr
    intro event member
    cases event with
    | registered named session => exact absurd member (others named session)
    | _ => rfl
  rw [lastRegistered, List.filterMap_append, nothing, List.append_nil, lastRegistered]

/-! ## Open entries -/

/-- The registration leaves no entry behind: `sessions_by_serial` has the session under no serial
but the one it now names, and the session is still being served. -/
def KeepsEntry (daemon : Daemon) : DaemonAction → Prop
  | .frame session _ wire _ => wire.frame.validCrc = true → isRegistration wire.frame = true →
      (∀ serial, daemon.tables.sessionsBySerial.get serial = some session →
        registrationSerial wire.frame = some serial) ∧
      (∀ serial, registrationSerial wire.frame = some serial → daemon.IsOpen session)
  | _ => True

/-- Every entry is of an open session that has the serial. -/
def EntriesOpen (daemon : Daemon) : Prop :=
  ∀ serial session, daemon.tables.sessionsBySerial.get serial = some session →
    daemon.IsOpen session ∧ daemon.serialOf session = some serial

section Steps

variable {config : DaemonConfig} {daemon next : Daemon} {shown : List DaemonEvent}

theorem Daemon.SameControl.entriesOpen (same : daemon.SameControl next)
    (entries : EntriesOpen daemon) :
    EntriesOpen next := by
  intro serial session entry
  rw [same.registry] at entry
  obtain ⟨isOpen, known⟩ := entries serial session entry
  exact ⟨(same.isOpen session).mpr isOpen, (same.serialOf session).trans known⟩

theorem knownSerial_congr {first second : ControlView} (same : first.serial = second.serial) :
    first.knownSerial = second.knownSerial := by
  rw [ControlView.knownSerial, ControlView.knownSerial, same]

theorem entriesOpen_frame {session : Nat} {world : SessionWorld} {wire : WireFrame}
    {sendBootstrap : Bool} (entries : EntriesOpen daemon)
    (keeps : KeepsEntry daemon (.frame session world wire sendBootstrap))
    (stepped : daemonMachine config daemon (.frame session world wire sendBootstrap) =
      some (next, shown)) : EntriesOpen next := by
  obtain ⟨view, after, tables, isView, outcome, done⟩ := Daemon.frame_outcome stepped
  have held := Daemon.serialOf_eq isView
  intro serial other entry
  rw [done.tables] at entry
  rw [done.isOpen, done.serialOf]
  -- the serial of the session stays where the frame is no registration
  have unchanged : after.knownSerial = view.knownSerial →
      tables.sessionsBySerial = daemon.tables.sessionsBySerial →
      daemon.IsOpen other ∧ (if other = session then after.knownSerial
        else daemon.serialOf other) = some serial := by
    intro sameSerial registry
    rw [registry] at entry
    obtain ⟨isOpen, known⟩ := entries serial other entry
    refine ⟨isOpen, ?_⟩
    split
    · rename_i same
      rwa [sameSerial, ← held, ← same]
    · exact known
  cases outcome with
  | kept sameSerial _ _ registry _ => exact unchanged (knownSerial_congr sameSerial) registry
  | wired _ _ _ _ _ _ sameSerial _ _ registry _ =>
    exact unchanged (knownSerial_congr sameSerial) registry
  | withdrawn => exact unchanged rfl rfl
  | unnamed valid registers nothing =>
    obtain ⟨isOpen, known⟩ := entries serial other entry
    refine ⟨isOpen, ?_⟩
    split
    · -- the session had an entry, so its registration names a serial
      rename_i same
      subst same
      have names := (keeps valid registers).1 serial entry
      rw [held, ControlView.knownSerial, Option.filter_eq_some_iff] at known
      rw [names, Option.filter_some, if_pos known.2] at nothing
      cases nothing
    · exact known
  | named valid registers names nonempty =>
    -- the entry of the new serial is set, whoever had it, and no other entry changes
    rename_i named
    change (daemon.tables.sessionsBySerial.set named session).get serial = some other at entry
    rw [Dict.get_set] at entry
    have nowKnown : ({ view with serial := some named } : ControlView).knownSerial =
        some named := by
      rw [ControlView.knownSerial, Option.filter_some, if_pos (decide_eq_true nonempty)]
    split at entry
    · rename_i isNamed
      cases entry
      rw [if_pos rfl, nowKnown, isNamed]
      exact ⟨(keeps valid registers).2 named names, rfl⟩
    · rename_i notNamed
      obtain ⟨isOpen, known⟩ := entries serial other entry
      refine ⟨isOpen, ?_⟩
      split
      · -- a session with an entry under another serial names that serial again
        rename_i same
        subst same
        have again := (keeps valid registers).1 serial entry
        rw [names] at again
        exact absurd (Option.some.inj again).symm notNamed
      · exact known

theorem entriesOpen_finish {session : Nat} (entries : EntriesOpen daemon)
    (stepped : daemonMachine config daemon (.finish session) = some (next, shown)) :
    EntriesOpen next := by
  obtain ⟨_, view, isView, controls, isOpen, tables, _⟩ := Daemon.finish_step stepped
  have held := Daemon.serialOf_eq isView
  intro serial other entry
  rw [tables] at entry
  -- an entry of the session that is done would be under its serial, and that one is removed
  have ofSession : daemon.tables.sessionsBySerial.get serial = some session →
      view.knownSerial = some serial := by
    intro wasEntry
    rw [← held]
    exact (entries serial session wasEntry).2
  have before : daemon.tables.sessionsBySerial.get serial = some other ∧ other ≠ session := by
    cases known : view.knownSerial with
    | none =>
      rw [known] at entry
      refine ⟨entry, ?_⟩
      rintro rfl
      exact absurd (known.symm.trans (ofSession entry)) nofun
    | some current =>
      rw [known, Tables.remove] at entry
      split at entry
      · change (daemon.tables.sessionsBySerial.pop current).get serial = some other at entry
        rw [Dict.get_pop] at entry
        split at entry
        · cases entry
        · rename_i notCurrent
          refine ⟨entry, ?_⟩
          rintro rfl
          exact notCurrent (Option.some.inj (known.symm.trans (ofSession entry))).symm
      · rename_i notHeld
        refine ⟨entry, ?_⟩
        rintro rfl
        obtain rfl := Option.some.inj (known.symm.trans (ofSession entry))
        exact notHeld entry
  obtain ⟨wasOpen, known⟩ := entries serial other before.1
  refine ⟨(isOpen other).mpr ⟨before.2, wasOpen⟩, ?_⟩
  rw [Daemon.serialOf, controls]
  exact known

theorem entriesOpen_step {action : DaemonAction} (entries : EntriesOpen daemon)
    (keeps : KeepsEntry daemon action)
    (stepped : daemonMachine config daemon action = some (next, shown)) : EntriesOpen next := by
  cases action with
  | connect =>
    obtain ⟨_, tables, _, _, _, isOpen⟩ := Daemon.connect_step stepped
    intro serial session entry
    rw [tables] at entry
    obtain ⟨wasOpen, known⟩ := entries serial session entry
    exact ⟨(isOpen session).mpr (.inr wasOpen),
      (Daemon.connect_serialOf stepped session).trans known⟩
  | frame => exact entriesOpen_frame entries keeps stepped
  | finish => exact entriesOpen_finish entries stepped
  | _ => exact (Daemon.quiet_step stepped trivial).1.entriesOpen entries

/-! ## The last to register -/

/-- An open session that was the last to register under its serial has the entry. -/
def LastHasEntry (daemon : Daemon) (trace : List DaemonEvent) : Prop :=
  ∀ serial session, lastRegistered serial trace = some session → daemon.IsOpen session →
    daemon.serialOf session = some serial →
    daemon.tables.sessionsBySerial.get serial = some session

variable {history : List DaemonEvent}

theorem lastHasEntry_frame {session : Nat} {world : SessionWorld} {wire : WireFrame}
    {sendBootstrap : Bool} (last : LastHasEntry daemon history)
    (stepped : daemonMachine config daemon (.frame session world wire sendBootstrap) =
      some (next, shown)) : LastHasEntry next (history ++ shown) := by
  obtain ⟨view, after, tables, isView, outcome, done⟩ := Daemon.frame_outcome stepped
  have held := Daemon.serialOf_eq isView
  intro serial other isLast isOpen known
  rw [done.isOpen] at isOpen
  rw [done.serialOf] at known
  rw [done.tables]
  have unchanged : after.knownSerial = view.knownSerial →
      tables.sessionsBySerial = daemon.tables.sessionsBySerial →
      lastRegistered serial history = some other →
      tables.sessionsBySerial.get serial = some other := by
    intro sameSerial registry wasLast
    rw [registry]
    apply last serial other wasLast isOpen
    split at known
    · rename_i same
      rwa [same, held, ← sameSerial]
    · exact known
  cases outcome with
  | kept sameSerial _ _ registry _ =>
    rw [List.append_nil] at isLast
    exact unchanged (knownSerial_congr sameSerial) registry isLast
  | wired _ _ _ _ _ _ sameSerial _ _ registry _ =>
    rw [List.append_nil] at isLast
    exact unchanged (knownSerial_congr sameSerial) registry isLast
  | withdrawn =>
    rw [List.append_nil] at isLast
    exact unchanged rfl rfl isLast
  | unnamed _ _ nothing =>
    rw [List.append_nil] at isLast
    split at known
    · -- the session has no serial any more
      rw [ControlView.knownSerial, nothing] at known
      cases known
    · exact last serial other isLast isOpen known
  | named _ _ _ nonempty =>
    -- the session is now the last one under the new serial, and has its entry
    rename_i named _ _ _
    rw [lastRegistered_registered] at isLast
    change (daemon.tables.sessionsBySerial.set named session).get serial = some other
    rw [Dict.get_set]
    split at isLast
    · rename_i isNamed
      rw [if_pos isNamed.symm, isLast]
    · rename_i notNamed
      rw [if_neg (Ne.symm notNamed)]
      apply last serial other isLast isOpen
      split at known
      · -- its serial is the one it registered with just now
        rw [ControlView.knownSerial, Option.filter_some, if_pos (decide_eq_true nonempty)] at known
        exact absurd (Option.some.inj known) notNamed
      · exact known

theorem lastHasEntry_finish {session : Nat} (last : LastHasEntry daemon history)
    (stepped : daemonMachine config daemon (.finish session) = some (next, shown)) :
    LastHasEntry next (history ++ shown) := by
  obtain ⟨rfl, view, _, controls, isOpen, tables, _⟩ := Daemon.finish_step stepped
  intro serial other isLast nowOpen known
  obtain ⟨different, wasOpen⟩ := (isOpen other).mp nowOpen
  rw [List.append_nil] at isLast
  rw [Daemon.serialOf, controls] at known
  have entry := last serial other isLast wasOpen known
  rw [tables]
  cases view.knownSerial with
  | none => exact entry
  | some current =>
    rw [Tables.remove]
    split
    · -- only the entry of the session that is done goes
      rename_i isHeld
      change (daemon.tables.sessionsBySerial.pop current).get serial = some other
      rw [Dict.get_pop, if_neg, entry]
      rintro rfl
      rw [entry] at isHeld
      exact different (Option.some.inj isHeld)
    · exact entry

theorem lastHasEntry_step {action : DaemonAction} (last : LastHasEntry daemon history)
    (stepped : daemonMachine config daemon action = some (next, shown)) :
    LastHasEntry next (history ++ shown) := by
  cases action with
  | connect =>
    obtain ⟨rfl, tables, _, _, _, isOpen⟩ := Daemon.connect_step stepped
    intro serial session isLast nowOpen known
    rw [List.append_nil] at isLast
    rw [Daemon.connect_serialOf stepped] at known
    rw [tables]
    apply last serial session isLast _ known
    have bound := Daemon.serialOf_bound known
    exact ((isOpen session).mp nowOpen).resolve_left (by omega)
  | frame => exact lastHasEntry_frame last stepped
  | finish => exact lastHasEntry_finish last stepped
  | _ =>
    obtain ⟨same, silent⟩ := Daemon.quiet_step stepped trivial
    intro serial session isLast isOpen known
    rw [lastRegistered_other serial history silent] at isLast
    rw [same.registry]
    exact last serial session isLast ((same.isOpen session).mp isOpen)
      ((same.serialOf session).symm.trans known)

end Steps

def registrationFrame (letter : UInt8) : WireFrame where
  frame := registration letter
  wellFormed := registration_wellFormed letter

def DaemonConfig.everything : DaemonConfig := ⟨.everything, "foxess".toList⟩

/-- A session handles a frame while nothing fails. -/
def DaemonAction.handle (session : Nat) (wire : WireFrame) : DaemonAction :=
  .frame session ⟨0, 0, none⟩ wire false

/-- One session registers as A and then as B, and its connection ends. -/
def renamedActions : List DaemonAction :=
  [.connect, .attach 0, .handle 0 (registrationFrame 'A'.toUInt8),
    .handle 0 (registrationFrame 'B'.toUInt8), .finish 0]

end FoxessGateway.Server
