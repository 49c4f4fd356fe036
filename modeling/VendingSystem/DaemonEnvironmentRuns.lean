import VendingSystem.DaemonEnvironmentRuntime

namespace VendingSystem.Daemon

/-!
# Applied settings and the registers

An attempt that puts a new value on a confirmed axis leaves the stored
confirmation behind until it is recorded as applied.  In a run in which none
ends before that, the registers are what the snapshot says.
-/

namespace EnvironmentControl

/-- A confirmed axis has the value of its register. -/
def ConfirmedAt (control : EnvironmentControl) (axis : Axis) : Prop :=
  ∀ value, control.snapshot.confirmed.get axis = some value →
    control.registers.get axis = value

/-- Applied settings are the ones in the registers. -/
def AppliedInHardware (control : EnvironmentControl) : Prop :=
  control.snapshot.convergence = .applied →
    control.registers = control.snapshot.desired

/-- No attempt is running. -/
def isIdle (control : EnvironmentControl) : Bool :=
  match control.worker with
  | .waiting
  | .candidate _ => true
  | _ => false

/-- Between attempts every confirmed axis has the value of its register. -/
def ConfirmedInHardware (control : EnvironmentControl) : Prop :=
  control.isIdle = true → ∀ axis, control.ConfirmedAt axis

end EnvironmentControl

/-- The attempt has to write an axis that is confirmed at another value. -/
def EnvironmentControlAttempt.changesConfirmed
    (attempt : EnvironmentControlAttempt)
    (axis : Axis) : Bool :=
  (attempt.snapshot.confirmed.get axis).any fun value =>
    value ≠ attempt.snapshot.desired.get axis

/-- The attempt has nothing to write on a confirmed axis. -/
def EnvironmentControlAttempt.KeepsConfirmed
    (attempt : EnvironmentControlAttempt) : Prop :=
  attempt.changesConfirmed .targetTemperature = false ∧
    attempt.changesConfirmed .airConditioner = false ∧
    attempt.changesConfirmed .ventSpeed = false

/-- A failed write, with whether it took effect. -/
def WriteAnswer.failure? : WriteAnswer → Option Bool
  | .ok => none
  | .error _ tookEffect => some tookEffect
  | .timedOut tookEffect => some tookEffect

/--
An attempt that changes a confirmed axis is recorded as applied: none of its
writes fails after the change, the failing write itself changes no confirmed
axis, and the record is stored before another revision is accepted.
-/
def FinishesWhatItChanges
    (control : EnvironmentControl)
    (event : EnvironmentEvent) : Prop :=
  match control.worker, event with
  | .writing attempt axis, .write answer =>
    attempt.needs axis = true → ∀ tookEffect ∈ answer.failure?,
      (∀ earlier ∈ axis.earlier,
        attempt.changesConfirmed earlier = false) ∧
      (tookEffect = true → attempt.changesConfirmed axis = false)
  | .recordingApplied attempt, .record stored =>
    (stored = true ∧
      attempt.snapshot.revision = control.snapshot.revision) ∨
    attempt.KeepsConfirmed
  | _, _ => True

instance (attempt : EnvironmentControlAttempt) :
    Decidable attempt.KeepsConfirmed :=
  inferInstanceAs (Decidable (_ ∧ _ ∧ _))

instance (control : EnvironmentControl) (event : EnvironmentEvent) :
    Decidable (FinishesWhatItChanges control event) := by
  unfold FinishesWhatItChanges
  split
  all_goals infer_instance

/-- How an attempt relates to what is stored. -/
structure EnvironmentControlAttempt.Current
    (attempt : EnvironmentControlAttempt)
    (stored : EnvironmentControlSnapshot) : Prop where
  confirmed : attempt.snapshot.confirmed = stored.confirmed
  revision : attempt.snapshot.revision ≤ stored.revision
  desired : attempt.snapshot.revision = stored.revision →
    attempt.snapshot.desired = stored.desired
  valid : attempt.snapshot.desired.validate = true
  unsettled : stored.convergence ≠ .applied

namespace EnvironmentControl

def WorkerInOrder (control : EnvironmentControl) : Prop :=
  match control.worker with
  | .waiting
  | .candidate _ => ∀ axis, control.ConfirmedAt axis
  | .acquiring attempt
  | .classifying attempt _
  | .recordingUnapplied attempt _ _ _ =>
    attempt.Current control.snapshot ∧ ∀ axis, control.ConfirmedAt axis
  | .writing attempt axis =>
    attempt.Current control.snapshot ∧
      (∀ earlier ∈ axis.earlier,
        control.registers.get earlier =
          attempt.snapshot.desired.get earlier) ∧
      ∀ other ∉ axis.earlier, control.ConfirmedAt other
  | .recordingApplied attempt =>
    attempt.Current control.snapshot ∧
      ∀ axis, control.registers.get axis =
        attempt.snapshot.desired.get axis

/-- The stored settings are in the ranges of the controller. -/
structure SnapshotValid (snapshot : EnvironmentControlSnapshot) : Prop where
  desired : snapshot.desired.validate = true
  baseVentSpeed : snapshot.settings.baseVentSpeed ≤ 4

structure Invariant (control : EnvironmentControl) : Prop where
  worker : control.WorkerInOrder
  applied : control.AppliedInHardware
  valid : SnapshotValid control.snapshot
  changedOnce : control.changedBy.Nodup
  changedByStored : ∀ actionId ∈ control.changedBy,
    (control.actions.find? actionId).isSome = true

end EnvironmentControl

@[simp] theorem DesiredEnvironmentControl.get_set
    (control : DesiredEnvironmentControl)
    (axis : Axis)
    (value : axis.Value) :
    (control.set axis value).get axis = value := by
  cases axis <;> rfl

variable {axis : Axis}

theorem DesiredEnvironmentControl.get_set_of_ne
    {other : Axis}
    (control : DesiredEnvironmentControl)
    (value : axis.Value)
    (differ : other ≠ axis) :
    (control.set axis value).get other = control.get other := by
  cases axis <;> cases other <;> first | rfl | exact absurd rfl differ

theorem DesiredEnvironmentControl.ext_get
    {first second : DesiredEnvironmentControl}
    (agree : ∀ axis, first.get axis = second.get axis) :
    first = second := by
  obtain ⟨firstEnabled, firstTemperature, firstVent⟩ := first
  obtain ⟨secondEnabled, secondTemperature, secondVent⟩ := second
  have enabled : firstEnabled = secondEnabled := agree .airConditioner
  have temperature : firstTemperature = secondTemperature :=
    agree .targetTemperature
  have vent : firstVent = secondVent := agree .ventSpeed
  subst enabled temperature vent
  rfl

@[simp] theorem DesiredEnvironmentControl.confirmed_get
    (control : DesiredEnvironmentControl)
    (axis : Axis) :
    control.confirmed.get axis = some (control.get axis) := by
  cases axis <;> rfl

@[simp] theorem ConfirmedEnvironmentControl.nothing_get (axis : Axis) :
    ConfirmedEnvironmentControl.nothing.get axis = none := by
  cases axis <;> rfl

theorem Axis.earlier_of_next
    {next : Axis}
    (follows : axis.next = some next)
    (other : Axis) :
    other ∈ next.earlier ↔ other ∈ axis.earlier ∨ other = axis := by
  cases axis <;> cases follows <;> cases other <;> decide

theorem Axis.earlier_of_last
    (last : axis.next = none)
    (other : Axis) :
    other ∈ axis.earlier ∨ other = axis := by
  cases axis <;> cases last
  cases other <;> decide

namespace EnvironmentControl

variable {control next : EnvironmentControl}
  {attempt : EnvironmentControlAttempt} {snapshot : EnvironmentControlSnapshot}
  {action : EnvironmentControlAction} {now : EnvironmentTime}
  {registers : EnvironmentRegisters} {event : EnvironmentEvent}

theorem confirmedAt_of_written
    {attempt : EnvironmentControlAttempt}
    {axis : Axis}
    (current : attempt.Current control.snapshot)
    (written : control.registers.get axis =
      attempt.snapshot.desired.get axis)
    (keeps : attempt.changesConfirmed axis = false) :
    control.ConfirmedAt axis := by
  intro value confirmed
  rw [← current.confirmed] at confirmed
  rw [EnvironmentControlAttempt.changesConfirmed, confirmed,
    Option.any_some, decide_eq_false_iff_not, not_not] at keeps
  rw [written, keeps]

theorem written_of_not_needs
    (current : attempt.Current control.snapshot)
    (confirmedAt : control.ConfirmedAt axis)
    (noNeed : attempt.needs axis = false) :
    control.registers.get axis = attempt.snapshot.desired.get axis := by
  rw [EnvironmentControlAttempt.needs, Bool.or_eq_false_iff,
    decide_eq_false_iff_not, not_not, current.confirmed] at noNeed
  exact confirmedAt _ noNeed.2

theorem SnapshotValid.withAction
    {kind : EnvironmentControlActionKind}
    (valid : SnapshotValid snapshot)
    (accepted : kind.validate = .ok ()) :
    SnapshotValid (snapshot.withAction kind) := by
  have baseVentSpeed := valid.baseVentSpeed
  have desired := valid.desired
  simp only [DesiredEnvironmentControl.validate, Bool.and_eq_true,
    decide_eq_true_eq] at desired
  cases kind with
  | setAirConditioner enabled => exact ⟨valid.desired, baseVentSpeed⟩
  | setTargetTemperature temperatureCelsius =>
    refine ⟨?_, baseVentSpeed⟩
    have inRange : 18 ≤ temperatureCelsius ∧ temperatureCelsius ≤ 30 := by
      by_contra outOfRange
      simp [EnvironmentControlActionKind.validate, outOfRange] at accepted
    simp [EnvironmentControlSnapshot.withAction,
      DesiredEnvironmentControl.validate,
      DesiredEnvironmentControl.set, inRange, desired.2]
  | setBaseVentSpeed ventSpeed =>
    have inRange : ventSpeed ≤ 4 := by
      by_contra outOfRange
      simp [EnvironmentControlActionKind.validate,
        Nat.not_le.mp outOfRange] at accepted
    refine ⟨?_, inRange⟩
    simp [EnvironmentControlSnapshot.withAction,
      DesiredEnvironmentControl.validate,
      DesiredEnvironmentControl.set, inRange, desired.1]
  | temporarilyStopVent =>
    refine ⟨?_, baseVentSpeed⟩
    simp [EnvironmentControlSnapshot.withAction,
      DesiredEnvironmentControl.validate,
      DesiredEnvironmentControl.set, desired.1]
  | restoreBaseVentSpeed =>
    refine ⟨?_, baseVentSpeed⟩
    simp [EnvironmentControlSnapshot.withAction,
      DesiredEnvironmentControl.validate,
      DesiredEnvironmentControl.set, desired.1, baseVentSpeed]
  | retryCurrentDesired => exact valid

theorem withAction_confirmed
    (snapshot : EnvironmentControlSnapshot)
    (kind : EnvironmentControlActionKind) :
    (snapshot.withAction kind).confirmed = snapshot.confirmed := by
  cases kind <;> rfl

theorem Current_transition
    (current : attempt.Current snapshot)
    (action : EnvironmentControlAction)
    (now : EnvironmentTime) :
    attempt.Current (snapshot.transition action now) where
  confirmed :=
    current.confirmed.trans (withAction_confirmed snapshot action.kind).symm
  revision := by
    dsimp only [EnvironmentControlSnapshot.transition]
    split
    · exact current.revision
    · exact Nat.le_succ_of_le current.revision
  desired same := by
    dsimp only [EnvironmentControlSnapshot.transition] at same ⊢
    split at same
    · rename_i retries
      rw [retries]
      exact current.desired same
    · have older := current.revision
      omega
  valid := current.valid
  unsettled := by
    dsimp only [EnvironmentControlSnapshot.transition]
    decide

/-- A new action keeps what is confirmed and what the worker holds. -/
theorem WorkerInOrder.transition
    (inOrder : control.WorkerInOrder)
    (action : EnvironmentControlAction)
    (now : EnvironmentTime)
    (actions :
      Table EnvironmentControlActionRow EnvironmentControlActionRow.actionId)
    (changedBy : List ActionId) :
    WorkerInOrder
      { control with
        snapshot := control.snapshot.transition action now
        actions, changedBy } := by
  have confirmedAt : ∀ axis, control.ConfirmedAt axis →
      ConfirmedAt
        { control with
          snapshot := control.snapshot.transition action now
          actions, changedBy } axis := by
    intro axis before value confirmed
    refine before value ?_
    rw [← withAction_confirmed control.snapshot action.kind]
    exact confirmed
  unfold WorkerInOrder at inOrder ⊢
  cases isWorker : control.worker with
  | waiting =>
    rw [isWorker] at inOrder
    exact fun axis => confirmedAt axis (inOrder axis)
  | candidate revision =>
    rw [isWorker] at inOrder
    exact fun axis => confirmedAt axis (inOrder axis)
  | acquiring attempt =>
    rw [isWorker] at inOrder
    exact ⟨Current_transition inOrder.1 action now,
      fun axis => confirmedAt axis (inOrder.2 axis)⟩
  | classifying attempt error =>
    rw [isWorker] at inOrder
    exact ⟨Current_transition inOrder.1 action now,
      fun axis => confirmedAt axis (inOrder.2 axis)⟩
  | recordingUnapplied attempt convergence reasonCode message =>
    rw [isWorker] at inOrder
    exact ⟨Current_transition inOrder.1 action now,
      fun axis => confirmedAt axis (inOrder.2 axis)⟩
  | writing attempt axis =>
    rw [isWorker] at inOrder
    exact ⟨Current_transition inOrder.1 action now, inOrder.2.1,
      fun axis later => confirmedAt axis (inOrder.2.2 axis later)⟩
  | recordingApplied attempt =>
    rw [isWorker] at inOrder
    exact ⟨Current_transition inOrder.1 action now, inOrder.2⟩

theorem Invariant.admitAction
    (invariant : control.Invariant)
    (admitted : control.admitAction action now = .ok next) :
    next.Invariant := by
  unfold EnvironmentControl.admitAction at admitted
  cases isValid : action.validate with
  | error message =>
    simp [isValid, Except.mapError, bind, Except.bind] at admitted
  | ok _ =>
    have accepted : action.kind.validate = .ok () := by
      unfold EnvironmentControlAction.validate at isValid
      split at isValid
      · cases isValid
      · split at isValid
        · cases isValid
        · exact isValid
    simp only [isValid, Except.mapError, bind, Except.bind] at admitted
    split at admitted
    · split at admitted
      · cases admitted
        exact invariant
      · cases admitted
    · rename_i unknown
      split at admitted
      · cases admitted
      · cases admitted
        exact
          { worker := invariant.worker.transition action now _ _
            applied := fun isApplied => by cases isApplied
            valid :=
              { desired :=
                  (SnapshotValid.withAction invariant.valid accepted).desired
                baseVentSpeed :=
                  (SnapshotValid.withAction invariant.valid
                    accepted).baseVentSpeed }
            changedOnce := by
              apply List.nodup_append.mpr
              refine ⟨invariant.changedOnce, List.nodup_singleton _, ?_⟩
              intro first firstMember second secondMember same
              rw [same, List.mem_singleton.mp secondMember] at firstMember
              have stored := invariant.changedByStored _ firstMember
              rw [unknown] at stored
              cases stored
            changedByStored := by
              intro actionId member
              rw [Table.find?_insertOrIgnore]
              split
              · rfl
              · rename_i differ
                rcases List.mem_append.mp member with old | new
                · exact invariant.changedByStored actionId old
                · exact absurd (List.mem_singleton.mp new) differ }

theorem Invariant.keepsStored
    {worker : EnvironmentWorker}
    (invariant : control.Invariant)
    (inOrder : WorkerInOrder { control with worker, registers })
    (applied : control.snapshot.convergence = .applied →
      registers = control.snapshot.desired) :
    Invariant { control with worker, registers } :=
  { invariant with worker := inOrder, applied }

theorem WorkerInOrder.after
    (current : attempt.Current control.snapshot)
    (written : ∀ earlier, earlier ∈ axis.earlier ∨ earlier = axis →
      registers.get earlier = attempt.snapshot.desired.get earlier)
    (confirmed : ∀ other, ¬ (other ∈ axis.earlier ∨ other = axis) →
      ConfirmedAt { control with registers } other) :
    WorkerInOrder
      { control with worker := attempt.after axis, registers } := by
  unfold EnvironmentControlAttempt.after
  split
  · rename_i following follows
    refine ⟨current, fun earlier member => ?_, fun other later => ?_⟩
    · exact written earlier ((Axis.earlier_of_next follows earlier).mp member)
    · exact confirmed other fun through =>
        later ((Axis.earlier_of_next follows other).mpr through)
  · rename_i last
    exact ⟨current, fun other =>
      written other (Axis.earlier_of_last last other)⟩

theorem confirmedAt_of_failure
    {tookEffect : Bool}
    (current : attempt.Current control.snapshot)
    (written : ∀ earlier ∈ axis.earlier,
      control.registers.get earlier = attempt.snapshot.desired.get earlier)
    (confirmed : ∀ other ∉ axis.earlier, control.ConfirmedAt other)
    (earlierKept : ∀ earlier ∈ axis.earlier,
      attempt.changesConfirmed earlier = false)
    (axisKept : tookEffect = true → attempt.changesConfirmed axis = false)
    (other : Axis) :
    (control.writeRegister attempt axis tookEffect).ConfirmedAt other := by
  have before : control.ConfirmedAt other := by
    by_cases earlier : other ∈ axis.earlier
    · exact confirmedAt_of_written current (written other earlier)
        (earlierKept other earlier)
    · exact confirmed other earlier
  cases tookEffect with
  | false => exact before
  | true =>
    by_cases same : other = axis
    · subst same
      refine @confirmedAt_of_written
        (control.writeRegister attempt other true) _ _ current ?_
        (axisKept rfl)
      exact DesiredEnvironmentControl.get_set _ _ _
    · intro value stored
      exact (DesiredEnvironmentControl.get_set_of_ne _ _ same).trans
        (before value stored)

theorem Invariant.writeAxis
    {answer : WriteAnswer}
    (invariant : control.Invariant)
    (isWriting : control.worker = .writing attempt axis)
    (finishes : FinishesWhatItChanges control (.write answer)) :
    (control.writeAxis attempt axis answer).Invariant := by
  have inOrder := invariant.worker
  unfold WorkerInOrder at inOrder
  rw [isWriting] at inOrder
  obtain ⟨current, written, confirmed⟩ := inOrder
  unfold FinishesWhatItChanges at finishes
  rw [isWriting] at finishes
  have settled : ∀ registers : EnvironmentRegisters,
      control.snapshot.convergence = .applied →
        registers = control.snapshot.desired :=
    fun _ isApplied => absurd isApplied current.unsettled
  unfold EnvironmentControl.writeAxis
  cases needed : attempt.needs axis with
  | false =>
    refine invariant.keepsStored ?_ (settled _)
    apply WorkerInOrder.after current
    · rintro other (member | rfl)
      · exact written other member
      · by_cases through : other ∈ other.earlier
        · exact written other through
        · exact written_of_not_needs current (confirmed other through) needed
    · exact fun other later =>
        confirmed other fun member => later (Or.inl member)
  | true =>
    have failed : ∀ tookEffect error, answer.failure? = some tookEffect →
        Invariant
          { control.writeRegister attempt axis tookEffect with
            worker := .classifying attempt error } := by
      intro tookEffect error isFailure
      obtain ⟨earlierKept, axisKept⟩ :=
        finishes needed tookEffect isFailure
      have kept := confirmedAt_of_failure current written confirmed
        earlierKept axisKept
      cases tookEffect with
      | true => exact invariant.keepsStored ⟨current, kept⟩ (settled _)
      | false => exact invariant.keepsStored ⟨current, kept⟩ (settled _)
    cases answer with
    | error message tookEffect => exact failed tookEffect _ rfl
    | timedOut tookEffect => exact failed tookEffect _ rfl
    | ok =>
      refine invariant.keepsStored ?_ (settled _)
      apply WorkerInOrder.after current
      · rintro earlier (member | rfl)
        · by_cases same : earlier = axis
          · subst same
            exact DesiredEnvironmentControl.get_set _ _ _
          · exact (DesiredEnvironmentControl.get_set_of_ne _ _ same).trans
              (written earlier member)
        · exact DesiredEnvironmentControl.get_set _ _ _
      · intro other later value stored
        have differ : other ≠ axis := fun same => later (Or.inr same)
        exact (DesiredEnvironmentControl.get_set_of_ne _ _ differ).trans
          (confirmed other (fun member => later (Or.inl member)) value
            stored)

/-- A confirmation that is stored is that of the registers. -/
theorem Invariant.recordApplied
    {stored : Bool}
    (invariant : control.Invariant)
    (isRecording : control.worker = .recordingApplied attempt)
    (finishes : FinishesWhatItChanges control (.record stored)) :
    Invariant
      { control with
        worker := .waiting
        snapshot :=
          if stored then control.storeApplied attempt
          else control.snapshot } := by
  have inOrder := invariant.worker
  unfold WorkerInOrder at inOrder
  rw [isRecording] at inOrder
  obtain ⟨current, written⟩ := inOrder
  unfold FinishesWhatItChanges at finishes
  rw [isRecording] at finishes
  have leaves : attempt.KeepsConfirmed →
      Invariant { control with worker := .waiting } := by
    rintro ⟨temperature, airConditioner, vent⟩
    refine invariant.keepsStored (fun axis => ?_)
      (fun isApplied => absurd isApplied current.unsettled)
    apply confirmedAt_of_written current (written axis)
    cases axis with
    | targetTemperature => exact temperature
    | airConditioner => exact airConditioner
    | ventSpeed => exact vent
  by_cases isStored : stored = true
  · rw [if_pos isStored]
    by_cases same : attempt.snapshot.revision = control.snapshot.revision
    · have isApplied : control.storeApplied attempt =
          { control.snapshot with
            confirmed := attempt.snapshot.desired.confirmed
            convergence := .applied
            reasonCode := "hardware_confirmed"
            message := none
            updatedAt := attempt.attemptedAt
            lastAttemptAt := some attempt.attemptedAt
            confirmedAt := some attempt.attemptedAt } := by
        unfold storeApplied EnvironmentControlSnapshot.recordApplied
        rw [if_neg (by simp [same, current.valid])]
      rw [isApplied]
      exact
        { worker := by
            intro axis value confirmed
            rw [DesiredEnvironmentControl.confirmed_get] at confirmed
            cases confirmed
            exact written axis
          applied := fun _ =>
            DesiredEnvironmentControl.ext_get fun axis => by
              rw [written axis, current.desired same]
          valid := ⟨invariant.valid.desired, invariant.valid.baseVentSpeed⟩
          changedOnce := invariant.changedOnce
          changedByStored := invariant.changedByStored }
    · have isRefused : control.storeApplied attempt = control.snapshot := by
        unfold storeApplied EnvironmentControlSnapshot.recordApplied
        rw [if_pos (Or.inl same)]
      rw [isRefused]
      rcases finishes with ⟨_, current⟩ | keeps
      · exact absurd current same
      · exact leaves keeps
  · rw [if_neg isStored]
    rcases finishes with ⟨storedTrue, _⟩ | keeps
    · exact absurd storedTrue isStored
    · exact leaves keeps

theorem Invariant.recordUnapplied
    {convergence : EnvironmentControlConvergence}
    {reasonCode message : String}
    (invariant : control.Invariant)
    (isRecording : control.worker =
      .recordingUnapplied attempt convergence reasonCode message)
    (stored : Bool) :
    Invariant
      { control with
        worker := .waiting
        snapshot :=
          if stored then
            control.snapshot.recordUnapplied attempt.snapshot.revision
              convergence reasonCode (some message) attempt.attemptedAt
          else control.snapshot } := by
  have inOrder := invariant.worker
  unfold WorkerInOrder at inOrder
  rw [isRecording] at inOrder
  obtain ⟨current, confirmed⟩ := inOrder
  have leaves : Invariant { control with worker := .waiting } :=
    invariant.keepsStored confirmed
      (fun isApplied => absurd isApplied current.unsettled)
  cases stored with
  | false => exact leaves
  | true =>
    simp only [↓reduceIte, EnvironmentControlSnapshot.recordUnapplied]
    split
    · exact leaves
    · rename_i accepted
      exact
        { worker := confirmed
          applied := fun isApplied =>
            absurd (Or.inr (Or.inl isApplied)) accepted
          valid :=
            ⟨invariant.valid.desired, invariant.valid.baseVentSpeed⟩
          changedOnce := invariant.changedOnce
          changedByStored := invariant.changedByStored }

theorem land_eq (control : EnvironmentControl) (landed : Bool) :
    control.land landed =
      { control with registers := (control.land landed).registers } := by
  unfold land
  split
  · unfold writeRegister
    split
    · rfl
    · rfl
  · rfl

theorem Invariant.restart
    (invariant : control.Invariant)
    (now : EnvironmentTime)
    (registers : EnvironmentRegisters) :
    Invariant
      { control with
        registers
        worker := .waiting
        snapshot :=
          control.snapshot.resetConfirmationForRuntimeStart now } where
  worker axis value confirmed := by
    have nothing : ConfirmedEnvironmentControl.nothing.get axis =
        some value := confirmed
    rw [ConfirmedEnvironmentControl.nothing_get] at nothing
    cases nothing
  applied isApplied := by cases isApplied
  valid := ⟨invariant.valid.desired, invariant.valid.baseVentSpeed⟩
  changedOnce := invariant.changedOnce
  changedByStored := invariant.changedByStored

theorem Invariant.step
    (invariant : control.Invariant)
    (finishes : FinishesWhatItChanges control event)
    (step : machine.step control event = some next) :
    next.Invariant := by
  have inOrder := invariant.worker
  have applied := invariant.applied
  cases event with
  | submit action now =>
    simp only [machine, EnvironmentControl.step] at step
    split at step
    · rename_i admitted isAdmitted
      cases step
      exact invariant.admitAction isAdmitted
    · cases step
      exact invariant
  | wake =>
    simp only [machine, EnvironmentControl.step] at step
    split at step
    · rename_i isWaiting
      cases step
      unfold WorkerInOrder at inOrder
      rw [isWaiting] at inOrder
      refine invariant.keepsStored ?_ applied
      unfold candidateWorker
      split
      · exact inOrder
      · exact inOrder
    · cases step
  | reconcile now =>
    simp only [machine, EnvironmentControl.step] at step
    split at step
    · rename_i revision isCandidate
      cases step
      unfold WorkerInOrder at inOrder
      rw [isCandidate] at inOrder
      refine invariant.keepsStored ?_ applied
      unfold attemptWorker
      split
      · rename_i unsettled
        refine ⟨⟨rfl, Nat.le_refl _, fun _ => rfl,
          invariant.valid.desired, fun isApplied => ?_⟩, inOrder⟩
        rw [EnvironmentControlSnapshot.isUnsettled, isApplied] at unsettled
        exact absurd unsettled.2 (by decide)
      · exact inOrder
    · cases step
  | acquire owned =>
    simp only [machine, EnvironmentControl.step] at step
    split at step
    · rename_i attempt isAcquiring
      cases step
      unfold WorkerInOrder at inOrder
      rw [isAcquiring] at inOrder
      refine invariant.keepsStored ?_ applied
      unfold acquiredWorker
      split
      · exact ⟨inOrder.1, fun _ member => absurd member List.not_mem_nil,
          fun other _ => inOrder.2 other⟩
      · exact inOrder
    · cases step
  | write answer =>
    simp only [machine, EnvironmentControl.step] at step
    split at step
    · rename_i attempt axis isWriting
      cases step
      exact invariant.writeAxis isWriting finishes
    · cases step
  | classify online =>
    simp only [machine, EnvironmentControl.step] at step
    split at step
    · rename_i attempt error isClassifying
      cases step
      unfold WorkerInOrder at inOrder
      rw [isClassifying] at inOrder
      exact invariant.keepsStored inOrder applied
    · cases step
  | record stored =>
    simp only [machine, EnvironmentControl.step] at step
    split at step
    · rename_i attempt isRecording
      cases step
      exact invariant.recordApplied isRecording finishes
    · rename_i attempt convergence reasonCode message isRecording
      cases step
      exact invariant.recordUnapplied isRecording stored
    · cases step
  | restart now landed =>
    cases step
    rw [land_eq]
    exact invariant.restart now (control.land landed).registers

theorem recordApplied_revision
    (snapshot : EnvironmentControlSnapshot)
    (revision : Nat)
    (confirmation : DesiredEnvironmentControl)
    (confirmedAt : EnvironmentTime) :
    (snapshot.recordApplied revision confirmation confirmedAt).revision =
      snapshot.revision := by
  unfold EnvironmentControlSnapshot.recordApplied
  split
  · rfl
  · rfl

theorem recordUnapplied_revision
    (snapshot : EnvironmentControlSnapshot)
    (revision : Nat)
    (convergence : EnvironmentControlConvergence)
    (reasonCode : String)
    (message : Option String)
    (attemptedAt : EnvironmentTime) :
    (snapshot.recordUnapplied revision convergence reasonCode message
      attemptedAt).revision = snapshot.revision := by
  unfold EnvironmentControlSnapshot.recordUnapplied
  split
  · rfl
  · rfl

theorem admitAction_revision
    (admitted : control.admitAction action now = .ok next) :
    control.snapshot.revision ≤ next.snapshot.revision := by
  unfold EnvironmentControl.admitAction at admitted
  cases isValid : action.validate with
  | error message =>
    simp [isValid, Except.mapError, bind, Except.bind] at admitted
  | ok _ =>
    simp only [isValid, Except.mapError, bind, Except.bind] at admitted
    split at admitted
    · split at admitted
      · cases admitted
        exact Nat.le_refl _
      · cases admitted
    · split at admitted
      · cases admitted
      · cases admitted
        dsimp only [EnvironmentControlSnapshot.transition]
        split
        · exact Nat.le_refl _
        · exact Nat.le_succ _

theorem writeAxis_snapshot
    (control : EnvironmentControl)
    (attempt : EnvironmentControlAttempt)
    (axis : Axis)
    (answer : WriteAnswer) :
    (control.writeAxis attempt axis answer).snapshot = control.snapshot := by
  have written : ∀ tookEffect,
      (control.writeRegister attempt axis tookEffect).snapshot =
        control.snapshot := by
    intro tookEffect
    cases tookEffect with
    | true => rfl
    | false => rfl
  unfold EnvironmentControl.writeAxis
  split
  · split
    · exact written _
    · exact written _
    · exact written _
  · rfl

theorem step_revision
    (step : machine.step control event = some next) :
    control.snapshot.revision ≤ next.snapshot.revision := by
  cases event with
  | submit action now =>
    simp only [machine, EnvironmentControl.step] at step
    split at step
    · rename_i admitted isAdmitted
      cases step
      exact admitAction_revision isAdmitted
    · cases step
      exact Nat.le_refl _
  | restart now landed =>
    cases step
    exact Nat.le_refl _
  | write answer =>
    simp only [machine, EnvironmentControl.step] at step
    split at step
    · cases step
      rw [writeAxis_snapshot]
    · cases step
  | record stored =>
    simp only [machine, EnvironmentControl.step] at step
    split at step
    · cases step
      dsimp only [storeApplied]
      split
      · rw [recordApplied_revision]
      · exact Nat.le_refl _
    · cases step
      dsimp only
      split
      · rw [recordUnapplied_revision]
      · exact Nat.le_refl _
    · cases step
  | wake | reconcile now | acquire owned | classify online =>
    simp only [machine, EnvironmentControl.step] at step
    split at step
    · cases step
      exact Nat.le_refl _
    · cases step

theorem run_revision
    {events : List EnvironmentEvent}
    (run : machine.run control events = some next) :
    control.snapshot.revision ≤ next.snapshot.revision := by
  have start : control.snapshot.revision ≤ control.snapshot.revision :=
    Nat.le_refl _
  exact @Machine.run_keeps _ _ machine
    (fun later => control.snapshot.revision ≤ later.snapshot.revision)
    (fun older step => Nat.le_trans older (step_revision step)) _ _ _
    start run

/-- A daemon that starts for the first time, at any registers. -/
def started
    (registers : EnvironmentRegisters)
    (now : EnvironmentTime) : EnvironmentControl where
  snapshot :=
    (EnvironmentControlSnapshot.initial now).resetConfirmationForRuntimeStart
      now
  actions := .empty
  worker := .waiting
  registers := registers
  changedBy := []

theorem started_invariant
    (registers : EnvironmentRegisters)
    (now : EnvironmentTime) :
    (started registers now).Invariant where
  worker axis value confirmed := by
    have nothing : ConfirmedEnvironmentControl.nothing.get axis =
        some value := confirmed
    rw [ConfirmedEnvironmentControl.nothing_get] at nothing
    cases nothing
  applied isApplied := by cases isApplied
  valid := ⟨rfl, Nat.le_succ 3⟩
  changedOnce := List.nodup_nil
  changedByStored _ member := absurd member List.not_mem_nil

theorem Invariant.confirmedInHardware
    (invariant : control.Invariant) :
    control.ConfirmedInHardware := by
  intro isIdle
  have inOrder := invariant.worker
  unfold WorkerInOrder at inOrder
  unfold EnvironmentControl.isIdle at isIdle
  cases isWorker : control.worker with
  | waiting =>
    rw [isWorker] at inOrder
    exact inOrder
  | candidate revision =>
    rw [isWorker] at inOrder
    exact inOrder
  | _ =>
    rw [isWorker] at isIdle
    cases isIdle

/--
While attempts finish what they change, applied settings are in the registers,
and so is every confirmed axis between attempts.  The revision never goes
back, and an action changes the snapshot once.
-/
theorem applied_settings_are_in_hardware
    (registers : EnvironmentRegisters)
    (now : EnvironmentTime)
    (events later : List EnvironmentEvent)
    (middle last : EnvironmentControl)
    (meets :
      machine.RunMeets FinishesWhatItChanges (started registers now)
        (events ++ later))
    (run : machine.run (started registers now) events = some middle)
    (laterRun : machine.run middle later = some last) :
    last.AppliedInHardware ∧ last.ConfirmedInHardware ∧
      middle.snapshot.revision ≤ last.snapshot.revision ∧
      last.changedBy.Nodup := by
  have wholeRun := Machine.run_append_iff.mpr ⟨middle, run, laterRun⟩
  have invariant : last.Invariant :=
    Machine.run_keeps_of_meets
      (fun invariant finishes step => Invariant.step invariant finishes step)
      (started_invariant registers now) meets wholeRun
  exact ⟨invariant.applied, invariant.confirmedInHardware,
    run_revision laterRun, invariant.changedOnce⟩

/-- An attempt whose writes are all answered, the last one as given. -/
def attemptWith (ventAnswer : WriteAnswer) : List EnvironmentEvent :=
  [.wake, .reconcile 2, .acquire true, .write .ok, .write .ok,
    .write ventAnswer]

/-- An operator sets the base vent speed. -/
def setVentSpeed
    (actionId : ActionId)
    (ventSpeed : Nat) : EnvironmentEvent :=
  .submit
    { actionId, source := .localOperator
      kind := .setBaseVentSpeed ventSpeed } 1

/-- The registers of a controller that nothing was written to yet. -/
def freshRegisters : EnvironmentRegisters where
  airConditionerEnabled := true
  targetTemperatureCelsius := 20
  ventSpeed := 1

/-- Both attempts succeed, and the new vent speed is in its register. -/
theorem applied_settings_are_in_hardware_answered :
    ∃ last,
      machine.run (started freshRegisters 0)
          (attemptWith .ok ++ [.record true, setVentSpeed "a" 3] ++
            attemptWith .ok ++ [.record true]) = some last ∧
        last.snapshot.convergence = .applied ∧
        last.registers.ventSpeed = 3 ∧
        last.AppliedInHardware ∧ last.ConfirmedInHardware ∧
        2 ≤ last.snapshot.revision + 1 ∧ last.changedBy.Nodup := by
  obtain ⟨applied, confirmed, revision, once⟩ :=
    applied_settings_are_in_hardware freshRegisters 0
      (attemptWith .ok ++ [.record true, setVentSpeed "a" 3])
      (attemptWith .ok ++ [.record true]) _ _ (by decide +kernel) rfl rfl
  exact ⟨_, rfl, rfl, rfl, applied, confirmed,
    Nat.succ_le_succ revision, once⟩

/--
The vent speed is written, but the answer is lost.  The next action desires
the old speed again, which is still confirmed, so it is reported as applied
without a write.
-/
theorem applied_settings_are_in_hardware_fails_for_lost_answer :
    ¬ ∀ (registers : EnvironmentRegisters) (now : EnvironmentTime)
        (events : List EnvironmentEvent) (last : EnvironmentControl),
      machine.run (started registers now) events = some last →
        last.AppliedInHardware := by
  intro always
  have applied := always freshRegisters 0
    (attemptWith .ok ++ [.record true, setVentSpeed "a" 3] ++
      attemptWith (.timedOut true) ++
      [.classify (some true), .record true, setVentSpeed "b" 0] ++
      attemptWith .ok ++ [.record true]) _ rfl rfl
  have vent := congrArg DesiredEnvironmentControl.ventSpeed applied
  revert vent
  decide +kernel

end EnvironmentControl

end VendingSystem.Daemon
