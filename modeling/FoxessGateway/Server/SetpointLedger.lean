import FoxessGateway.Server.Setpoints

/-! # The law of pending setpoints

The tables of `AppControl` under any sequence of `set_desired_active_power_limit` and
`mark_active_power_limit_applied`, and what `pending_active_power_limit` answers after it. -/

namespace FoxessGateway.Server

open Protocol Runs

/-! ## Calls -/

inductive SetpointCall where
  | setDesired (serial : Text) (percent : Nat)
  | markApplied (serial : Text) (percent generation : Nat)
  deriving DecidableEq, Repr

def SetpointCall.serial : SetpointCall → Text
  | .setDesired serial _ | .markApplied serial _ _ => serial

inductive SetpointRecord where
  /-- A setpoint was recorded, and its generation returned. -/
  | issued (serial : Text) (generation percent : Nat)
  | applied (serial : Text) (generation : Nat)
  deriving DecidableEq, Repr

/-- The calls, in any order. -/
def setpointLedger : Machine AppControl SetpointCall SetpointRecord := fun app call =>
  match call with
  | .setDesired serial percent =>
    let (next, generation) := app.setDesiredActivePowerLimit serial percent
    some (next, [.issued serial generation percent])
  | .markApplied serial percent generation =>
    some (app.markActivePowerLimitApplied serial percent generation, [.applied serial generation])

theorem setpointLedger_cases {app next : AppControl} {call : SetpointCall}
    {shown : List SetpointRecord} (called : setpointLedger app call = some (next, shown)) :
    (∃ serial percent, call = .setDesired serial percent ∧
      next = (app.setDesiredActivePowerLimit serial percent).1 ∧
      shown = [.issued serial (app.currentActivePowerLimitGeneration serial + 1) percent]) ∨
    ∃ serial percent generation, call = .markApplied serial percent generation ∧
      next = app.markActivePowerLimitApplied serial percent generation ∧
      shown = [.applied serial generation] := by
  cases call with
  | setDesired serial percent =>
    cases called
    exact .inl ⟨serial, percent, rfl, rfl, rfl⟩
  | markApplied serial percent generation =>
    cases called
    exact .inr ⟨serial, percent, generation, rfl, rfl, rfl⟩

/-- A generation is marked only after it was issued for its serial. -/
def MarksIssued (before : List SetpointRecord) : SetpointRecord → Prop
  | .issued _ _ _ => True
  | .applied serial generation => ∃ percent, .issued serial generation percent ∈ before

theorem justified_issued {records : List SetpointRecord} (justified : Justified MarksIssued records)
    (serial : Text) (generation percent : Nat) :
    Justified MarksIssued (records ++ [.issued serial generation percent]) :=
  justified_concat.mpr ⟨justified, trivial⟩

theorem justified_applied {records : List SetpointRecord} {serial : Text} {generation percent : Nat}
    (justified : Justified MarksIssued records)
    (issued : .issued serial generation percent ∈ records) :
    Justified MarksIssued (records ++ [.applied serial generation]) :=
  justified_concat.mpr ⟨justified, percent, issued⟩

/-- The generation and the percent of a setpoint of the serial. -/
def issuedFor (serial : Text) : SetpointRecord → Option (Nat × Nat)
  | .issued other generation percent => if other = serial then some (generation, percent) else none
  | .applied _ _ => none

/-- The latest setpoint of a serial. -/
def latestSetpoint (serial : Text) (records : List SetpointRecord) : Option (Nat × Nat) :=
  (records.filterMap (issuedFor serial)).getLast?

theorem latestSetpoint_issued (serial other : Text) (generation percent : Nat)
    (records : List SetpointRecord) :
    latestSetpoint serial (records ++ [.issued other generation percent]) =
      if other = serial then some (generation, percent) else latestSetpoint serial records := by
  by_cases same : other = serial
  · simp [latestSetpoint, issuedFor, same]
  · simp [latestSetpoint, issuedFor, same]

theorem latestSetpoint_applied (serial other : Text) (generation : Nat)
    (records : List SetpointRecord) :
    latestSetpoint serial (records ++ [.applied other generation]) =
      latestSetpoint serial records := by
  simp [latestSetpoint, issuedFor]

/-- No setpoint was recorded exactly if there is no latest one. -/
theorem latestSetpoint_eq_none_iff {serial : Text} {records : List SetpointRecord} :
    latestSetpoint serial records = none ↔
      ∀ generation percent, .issued serial generation percent ∉ records := by
  rw [latestSetpoint, List.getLast?_eq_none_iff, List.filterMap_eq_nil_iff]
  constructor
  · intro nothing generation percent member
    simpa [issuedFor] using nothing _ member
  · intro never record member
    cases record with
    | applied => rfl
    | issued other generation percent =>
      apply if_neg
      rintro rfl
      exact never generation percent member

/-! ## The tables after a call -/

section Tables

variable (app : AppControl) (serial other : Text) (percent generation : Nat)

theorem setDesired_desired :
    (app.setDesiredActivePowerLimit serial percent).1.desiredActivePowerLimit.get other =
      if other = serial then some percent else app.desiredActivePowerLimit.get other := rfl

theorem setDesired_generation :
    (app.setDesiredActivePowerLimit serial percent).1.currentActivePowerLimitGeneration other =
      if other = serial then app.currentActivePowerLimitGeneration serial + 1
      else app.currentActivePowerLimitGeneration other := by
  simp only [AppControl.currentActivePowerLimitGeneration, AppControl.setDesiredActivePowerLimit,
    Dict.get_set]
  split <;> rfl

theorem setDesired_confirmed :
    (app.setDesiredActivePowerLimit serial percent).1.confirmedGeneration other =
      app.confirmedGeneration other := rfl

theorem markApplied_desired :
    (app.markActivePowerLimitApplied serial percent generation).desiredActivePowerLimit =
      app.desiredActivePowerLimit := rfl

theorem markApplied_generation :
    (app.markActivePowerLimitApplied serial percent generation).currentActivePowerLimitGeneration
      other = app.currentActivePowerLimitGeneration other := rfl

/-- The confirmed generation of the serial only grows. -/
theorem markApplied_confirmed :
    (app.markActivePowerLimitApplied serial percent generation).confirmedGeneration other =
      if other = serial then max (app.confirmedGeneration serial) generation
      else app.confirmedGeneration other := by
  change ((if generation > app.confirmedGeneration serial then _ else _ : Dict Text Nat).get
    other).getD 0 = _
  by_cases later : generation > app.confirmedGeneration serial
  · rw [if_pos later, Dict.get_set]
    split
    · exact (Nat.max_eq_right (Nat.le_of_lt later)).symm
    · rfl
  · rw [if_neg later]
    split
    · rename_i same
      rw [same]
      exact (Nat.max_eq_left (Nat.not_lt.mp later)).symm
    · rfl

theorem pendingActivePowerLimit_eq :
    app.pendingActivePowerLimit serial =
      if app.currentActivePowerLimitGeneration serial ≤ app.confirmedGeneration serial then none
      else app.desiredActivePowerLimit.get serial := by
  rw [AppControl.pendingActivePowerLimit]
  cases app.desiredActivePowerLimit.get serial with
  | none => exact (ite_self none).symm
  | some desired => rfl

end Tables

/-- A call changes what is pending only for its own serial. -/
theorem pendingActivePowerLimit_other {app next : AppControl} {call : SetpointCall}
    {shown : List SetpointRecord} {other : Text} (elsewhere : other ≠ call.serial)
    (called : setpointLedger app call = some (next, shown)) :
    next.pendingActivePowerLimit other = app.pendingActivePowerLimit other := by
  rw [pendingActivePowerLimit_eq, pendingActivePowerLimit_eq]
  obtain ⟨serial, percent, rfl, rfl, _⟩ | ⟨serial, percent, generation, rfl, rfl, _⟩ :=
    setpointLedger_cases called
  · have notSerial : other ≠ serial := elsewhere
    rw [setDesired_generation, setDesired_confirmed, setDesired_desired, if_neg notSerial,
      if_neg notSerial]
  · have notSerial : other ≠ serial := elsewhere
    rw [markApplied_generation, markApplied_confirmed, markApplied_desired, if_neg notSerial]

/-! ## The invariant -/

/-- What the tables say of one serial, and the records they say it from. -/
structure LedgerInvariant (serial : Text) (app : AppControl) (records : List SetpointRecord) :
    Prop where
  desired : app.desiredActivePowerLimit.get serial = (latestSetpoint serial records).map Prod.snd
  generation : app.currentActivePowerLimitGeneration serial =
    ((latestSetpoint serial records).map Prod.fst).getD 0
  issued_le : ∀ {generation percent}, .issued serial generation percent ∈ records →
    generation ≤ app.currentActivePowerLimitGeneration serial
  applied_le : ∀ {generation}, .applied serial generation ∈ records →
    generation ≤ app.currentActivePowerLimitGeneration serial
  /-- Once there is a setpoint, it is confirmed exactly if its generation was marked. -/
  confirmed : app.currentActivePowerLimitGeneration serial ≤ app.confirmedGeneration serial ↔
    latestSetpoint serial records = none ∨
      .applied serial (app.currentActivePowerLimitGeneration serial) ∈ records
  confirmed_le : app.confirmedGeneration serial ≤ app.currentActivePowerLimitGeneration serial

theorem ledgerInvariant_fresh (serial : Text) : LedgerInvariant serial .fresh [] where
  desired := rfl
  generation := rfl
  issued_le member := nomatch member
  applied_le member := nomatch member
  confirmed := ⟨fun _ => .inl rfl, fun _ => Nat.le_refl _⟩
  confirmed_le := Nat.le_refl _

/-- The invariant, as far as only issued generations were marked. -/
def LedgerLaw (serial : Text) (app : AppControl) (records : List SetpointRecord) : Prop :=
  Justified MarksIssued records → LedgerInvariant serial app records

section Steps

variable {serial : Text} {app : AppControl} {records : List SetpointRecord}

theorem ledgerInvariant_setDesired (invariant : LedgerInvariant serial app records) (other : Text)
    (percent : Nat) :
    LedgerInvariant serial (app.setDesiredActivePowerLimit other percent).1
      (records ++ [.issued other (app.currentActivePowerLimitGeneration other + 1) percent]) := by
  have applied_iff : ∀ {generation}, .applied serial generation ∈
      records ++ [SetpointRecord.issued other (app.currentActivePowerLimitGeneration other + 1)
        percent] ↔
        .applied serial generation ∈ records := by simp
  by_cases same : other = serial
  · subst same
    have current :
        (app.setDesiredActivePowerLimit other percent).1.currentActivePowerLimitGeneration other =
          app.currentActivePowerLimitGeneration other + 1 := by
      rw [setDesired_generation, if_pos rfl]
    have confirmed_le := invariant.confirmed_le
    constructor
    case desired =>
      rw [setDesired_desired, if_pos rfl, latestSetpoint_issued, if_pos rfl]
      rfl
    case generation =>
      rw [current, latestSetpoint_issued, if_pos rfl]
      rfl
    case issued_le =>
      intro generation value member
      rw [current]
      rcases List.mem_append.mp member with early | now
      · exact Nat.le_succ_of_le (invariant.issued_le early)
      · have isNext : generation = app.currentActivePowerLimitGeneration other + 1 ∧
            value = percent := by simpa using now
        omega
    case applied_le =>
      intro generation member
      rw [current]
      exact Nat.le_succ_of_le (invariant.applied_le (applied_iff.mp member))
    case confirmed =>
      -- the new generation is beyond every confirmed and every marked one
      rw [current, setDesired_confirmed, latestSetpoint_issued, if_pos rfl, applied_iff]
      constructor
      · intro beyond
        omega
      · rintro (nothing | marked)
        · cases nothing
        · have := invariant.applied_le marked
          omega
    case confirmed_le =>
      rw [current, setDesired_confirmed]
      omega
  · -- a setpoint for another serial
    have unchanged :
        (app.setDesiredActivePowerLimit other percent).1.currentActivePowerLimitGeneration serial =
          app.currentActivePowerLimitGeneration serial := by
      rw [setDesired_generation, if_neg (Ne.symm same)]
    constructor
    case desired =>
      rw [setDesired_desired, if_neg (Ne.symm same), latestSetpoint_issued, if_neg same]
      exact invariant.desired
    case generation =>
      rw [unchanged, latestSetpoint_issued, if_neg same]
      exact invariant.generation
    case issued_le =>
      intro generation value member
      rw [unchanged]
      rcases List.mem_append.mp member with early | now
      · exact invariant.issued_le early
      · obtain ⟨rfl, _⟩ := by simpa using now
        exact absurd rfl same
    case applied_le =>
      intro generation member
      rw [unchanged]
      exact invariant.applied_le (applied_iff.mp member)
    case confirmed =>
      rw [unchanged, setDesired_confirmed, latestSetpoint_issued, if_neg same, applied_iff]
      exact invariant.confirmed
    case confirmed_le =>
      rw [unchanged, setDesired_confirmed]
      exact invariant.confirmed_le

theorem ledgerInvariant_markApplied (invariant : LedgerInvariant serial app records) (other : Text)
    (percent generation : Nat) (wasIssued : MarksIssued records (.applied other generation)) :
    LedgerInvariant serial (app.markActivePowerLimitApplied other percent generation)
      (records ++ [.applied other generation]) := by
  -- this is what marking only issued generations is needed for
  have bound : other = serial → generation ≤ app.currentActivePowerLimitGeneration serial := by
    rintro rfl
    obtain ⟨value, early⟩ := wasIssued
    exact invariant.issued_le early
  have confirmed_le := invariant.confirmed_le
  constructor
  case desired =>
    rw [markApplied_desired, latestSetpoint_applied]
    exact invariant.desired
  case generation =>
    rw [markApplied_generation, latestSetpoint_applied]
    exact invariant.generation
  case issued_le =>
    intro issued value member
    rw [markApplied_generation]
    exact invariant.issued_le (by simpa using member)
  case applied_le =>
    intro marked member
    rw [markApplied_generation]
    rcases List.mem_append.mp member with early | now
    · exact invariant.applied_le early
    · obtain ⟨rfl, rfl⟩ := by simpa using now
      exact bound rfl
  case confirmed =>
    rw [markApplied_generation, markApplied_confirmed, latestSetpoint_applied, List.mem_append]
    by_cases same : serial = other
    · -- the mark confirms the current generation exactly if it is the one that is marked
      subst same
      have issued := bound rfl
      rw [if_pos rfl, le_max_iff, invariant.confirmed, or_assoc]
      apply or_congr_right
      apply or_congr_right
      simp only [List.mem_singleton, SetpointRecord.applied.injEq, true_and]
      omega
    · rw [if_neg same, invariant.confirmed]
      simp [same]
  case confirmed_le =>
    rw [markApplied_generation, markApplied_confirmed]
    split
    · rename_i same
      have issued := bound same.symm
      subst same
      omega
    · exact confirmed_le

theorem ledgerInvariant_step {next : AppControl} {call : SetpointCall} {shown : List SetpointRecord}
    (invariant : LedgerLaw serial app records)
    (called : setpointLedger app call = some (next, shown)) :
    LedgerLaw serial next (records ++ shown) := by
  intro justified
  have holds := invariant justified.of_append
  obtain ⟨other, percent, _, rfl, rfl⟩ | ⟨other, percent, generation, _, rfl, rfl⟩ :=
    setpointLedger_cases called
  · exact ledgerInvariant_setDesired holds other percent
  · apply ledgerInvariant_markApplied holds
    exact (justified_concat.mp justified).2

end Steps

theorem ledgerInvariant_run {calls : List SetpointCall} {app : AppControl}
    {records : List SetpointRecord} (called : run setpointLedger .fresh calls = some (app, records))
    (justified : Justified MarksIssued records) (serial : Text) :
    LedgerInvariant serial app records := by
  have initially : LedgerLaw serial .fresh [] := fun _ => ledgerInvariant_fresh serial
  have reached : LedgerLaw serial app ([] ++ records) :=
    run_invariant ledgerInvariant_step initially called
  exact reached justified

/-! ## The law -/

/-- **The law of pending setpoints.**  After any sequence of calls that mark only generations
issued for their serial, nothing is pending for a serial exactly if it never had a setpoint or
the generation of its latest one was marked; otherwise the latest percent is.  A call never
changes what is pending for another serial. -/
theorem pendingActivePowerLimit_law {calls : List SetpointCall} {app : AppControl}
    {records : List SetpointRecord} (called : run setpointLedger .fresh calls = some (app, records))
    (justified : Justified MarksIssued records) :
    (∀ serial,
      (app.pendingActivePowerLimit serial = none ↔
        (∀ generation percent, .issued serial generation percent ∉ records) ∨
          ∃ generation percent, latestSetpoint serial records = some (generation, percent) ∧
            .applied serial generation ∈ records) ∧
      ∀ percent, app.pendingActivePowerLimit serial = some percent →
        ∃ generation, latestSetpoint serial records = some (generation, percent)) ∧
      ∀ call next shown other, other ≠ call.serial →
        setpointLedger app call = some (next, shown) →
        next.pendingActivePowerLimit other = app.pendingActivePowerLimit other := by
  refine ⟨fun serial => ?_, fun call next shown other elsewhere stepped =>
    pendingActivePowerLimit_other elsewhere stepped⟩
  have invariant := ledgerInvariant_run called justified serial
  rw [pendingActivePowerLimit_eq, invariant.desired, ← latestSetpoint_eq_none_iff]
  have confirmed := invariant.confirmed
  have generation := invariant.generation
  cases latest : latestSetpoint serial records with
  | none => simp
  | some setpoint =>
    obtain ⟨current, percent⟩ := setpoint
    rw [latest] at confirmed generation
    have isCurrent : app.currentActivePowerLimitGeneration serial = current := generation
    rw [isCurrent] at confirmed ⊢
    constructor
    · rw [Option.map_some, ite_eq_left_iff, imp_iff_not (by simp), not_not, confirmed]
      apply or_congr_right
      constructor
      · intro marked
        exact ⟨current, percent, rfl, marked⟩
      · rintro ⟨_, _, same, marked⟩
        cases same
        exact marked
    · intro value pending
      split at pending
      · cases pending
      · cases pending
        exact ⟨current, rfl⟩

/-- 80, 50 and 80 again, of which the first is acknowledged last. -/
def lateAckCalls : List SetpointCall :=
  [.setDesired ['A'] 80, .setDesired ['A'] 50, .setDesired ['A'] 80, .markApplied ['A'] 80 1]

theorem pendingActivePowerLimit_law_lateAck :
    ∃ app records, run setpointLedger .fresh lateAckCalls = some (app, records) ∧
      app.pendingActivePowerLimit ['A'] = some 80 ∧
      latestSetpoint ['A'] records = some (3, 80) ∧
      (app.pendingActivePowerLimit ['B'] = none ↔
        (∀ generation percent, .issued ['B'] generation percent ∉ records) ∨
          ∃ generation percent, latestSetpoint ['B'] records = some (generation, percent) ∧
            .applied ['B'] generation ∈ records) := by
  have issued := justified_issued (justified_issued (justified_issued justified_nil ['A'] 1 80)
    ['A'] 2 50) ['A'] 3 80
  have justified := justified_applied issued (show SetpointRecord.issued ['A'] 1 80 ∈ _ by simp)
  refine ⟨_, _, rfl, rfl, rfl, ?_⟩
  exact ((pendingActivePowerLimit_law (rfl : run _ _ lateAckCalls = _) justified).1 ['B']).1

end FoxessGateway.Server
