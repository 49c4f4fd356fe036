import VendingSystem.DaemonEnvironmentControl

namespace VendingSystem.Daemon

/-!
# The environment control runtime

Submitted actions, the worker's attempts at the hardware and restarts, each
store call and each write of a register as one step.  A write that failed may
have taken effect.
-/

structure EnvironmentControlActionRow where
  actionId : ActionId
  action : EnvironmentControlAction
  acceptedRevision : Nat
  acceptedAt : EnvironmentTime
  deriving Repr, DecidableEq

/-- The largest revision that a row of the store can hold. -/
def maxStoredRevision : Nat := 2 ^ 63 - 1

inductive EnvironmentControlError where
  | invalidAction (message : String)
  | idempotencyConflict
  deriving Repr, DecidableEq

/-- An attempt works on the snapshot that it read. -/
structure EnvironmentControlAttempt where
  snapshot : EnvironmentControlSnapshot
  attemptedAt : EnvironmentTime
  deriving Repr, DecidableEq

/-- How a write of a register was answered. -/
inductive WriteAnswer where
  | ok
  | error (message : String) (tookEffect : Bool)
  | timedOut (tookEffect : Bool)
  deriving Repr, DecidableEq

/-- What the worker does next. -/
inductive EnvironmentWorker where
  | waiting
  | candidate (revision : Nat)
  | acquiring (attempt : EnvironmentControlAttempt)
  | writing (attempt : EnvironmentControlAttempt) (axis : Axis)
  | classifying (attempt : EnvironmentControlAttempt) (error : String)
  | recordingApplied (attempt : EnvironmentControlAttempt)
  | recordingUnapplied
      (attempt : EnvironmentControlAttempt)
      (convergence : EnvironmentControlConvergence)
      (reasonCode message : String)
  deriving Repr, DecidableEq

namespace EnvironmentControlAttempt

def forceAll (attempt : EnvironmentControlAttempt) : Bool :=
  attempt.snapshot.reasonCode = "explicit_retry_requested"

/-- The axis is written unless it is confirmed at its desired value. -/
def needs (attempt : EnvironmentControlAttempt) (axis : Axis) : Bool :=
  attempt.forceAll ||
    attempt.snapshot.confirmed.get axis ≠
      some (attempt.snapshot.desired.get axis)

/-- What the worker does after an axis. -/
def after
    (attempt : EnvironmentControlAttempt)
    (axis : Axis) : EnvironmentWorker :=
  match axis.next with
  | some next => .writing attempt next
  | none => .recordingApplied attempt

end EnvironmentControlAttempt

def Axis.timeoutMessage : Axis → String
  | .targetTemperature => "target temperature operation timed out"
  | .airConditioner => "air conditioner operation timed out"
  | .ventSpeed => "vent speed operation timed out"

/-- What a failed write is recorded as; the status can be missing. -/
def classifyHardwareError
    (online : Option Bool)
    (error : String) : EnvironmentControlConvergence × String :=
  let normalized := toAsciiLowercase error
  if online = some false then (.offline, "lower_controller_offline")
  else if containsText normalized "controller busy" then
    (.pending, "lower_controller_busy")
  else if containsText normalized "rejected" ||
      containsText normalized "not supported" ||
      containsText normalized "invalid" then
    (.failed, "lower_controller_rejected")
  else (.pending, "lower_controller_retryable_failure")

/--
The stored snapshot and actions, the worker and the registers, with the
actions that have changed the snapshot so far.
-/
structure EnvironmentControl where
  snapshot : EnvironmentControlSnapshot
  actions :
    Table EnvironmentControlActionRow EnvironmentControlActionRow.actionId
  worker : EnvironmentWorker
  registers : EnvironmentRegisters
  changedBy : List ActionId

inductive EnvironmentEvent where
  | submit (action : EnvironmentControlAction) (now : EnvironmentTime)
  | wake
  | reconcile (now : EnvironmentTime)
  | acquire (owned : Bool)
  | write (answer : WriteAnswer)
  | classify (online : Option Bool)
  | record (stored : Bool)
  | restart (now : EnvironmentTime) (landed : Bool)
  deriving Repr, DecidableEq

namespace EnvironmentControl

/-- Admit an action, or answer the admission of the same action. -/
def admitAction
    (control : EnvironmentControl)
    (action : EnvironmentControlAction)
    (acceptedAt : EnvironmentTime) :
    Except EnvironmentControlError EnvironmentControl := do
  (action.validate).mapError .invalidAction
  match control.actions.find? action.actionId with
  | some existing =>
    if existing.action = action then pure control
    else throw .idempotencyConflict
  | none =>
    let next := control.snapshot.transition action acceptedAt
    if maxStoredRevision < next.revision then
      throw (.invalidAction
        "environment control revision exceeds SQLite range")
    else
      pure
        { control with
          snapshot := next
          actions := control.actions.insertOrIgnore
            { actionId := action.actionId, action
              acceptedRevision := next.revision, acceptedAt }
          changedBy := control.changedBy ++ [action.actionId] }

/-- Write an axis of the attempt to its register, or not. -/
def writeRegister
    (control : EnvironmentControl)
    (attempt : EnvironmentControlAttempt)
    (axis : Axis)
    (tookEffect : Bool) : EnvironmentControl :=
  if tookEffect then
    { control with
      registers :=
        control.registers.set axis (attempt.snapshot.desired.get axis) }
  else control

/-- The step of the worker at an axis. -/
def writeAxis
    (control : EnvironmentControl)
    (attempt : EnvironmentControlAttempt)
    (axis : Axis)
    (answer : WriteAnswer) : EnvironmentControl :=
  if attempt.needs axis then
    match answer with
    | .ok =>
      { control.writeRegister attempt axis true with
        worker := attempt.after axis }
    | .error message tookEffect =>
      { control.writeRegister attempt axis tookEffect with
        worker := .classifying attempt message }
    | .timedOut tookEffect =>
      { control.writeRegister attempt axis tookEffect with
        worker := .classifying attempt axis.timeoutMessage }
  else { control with worker := attempt.after axis }

/-- A write that was under way when the daemon died may still land. -/
def land (control : EnvironmentControl) (landed : Bool) :
    EnvironmentControl :=
  match control.worker with
  | .writing attempt axis =>
    control.writeRegister attempt axis (landed && attempt.needs axis)
  | _ => control

/-- The worker reads the snapshot that it may reconcile. -/
def candidateWorker (control : EnvironmentControl) : EnvironmentWorker :=
  if control.snapshot.isUnsettled then
    .candidate control.snapshot.revision
  else .waiting

/-- The worker reads again, under its guard. -/
def attemptWorker
    (control : EnvironmentControl)
    (revision : Nat)
    (now : EnvironmentTime) : EnvironmentWorker :=
  if control.snapshot.revision = revision ∧
      control.snapshot.isUnsettled then
    .acquiring { snapshot := control.snapshot, attemptedAt := now }
  else .waiting

/-- The first axis, or nothing while another operation owns the hardware. -/
def acquiredWorker
    (attempt : EnvironmentControlAttempt)
    (owned : Bool) : EnvironmentWorker :=
  if owned then .writing attempt .targetTemperature
  else
    .recordingUnapplied attempt .pending "lower_controller_busy"
      "lower controller is busy with another operation"

def classifiedWorker
    (attempt : EnvironmentControlAttempt)
    (error : String)
    (online : Option Bool) : EnvironmentWorker :=
  let (convergence, reasonCode) := classifyHardwareError online error
  .recordingUnapplied attempt convergence reasonCode error

def storeApplied
    (control : EnvironmentControl)
    (attempt : EnvironmentControlAttempt) : EnvironmentControlSnapshot :=
  control.snapshot.recordApplied attempt.snapshot.revision
    attempt.snapshot.desired attempt.attemptedAt

def step (control : EnvironmentControl) :
    EnvironmentEvent → Option EnvironmentControl
  | .submit action now =>
    match control.admitAction action now with
    | .ok admitted => some admitted
    | .error _ => some control
  | .wake =>
    match control.worker with
    | .waiting =>
      some { control with worker := control.candidateWorker }
    | _ => none
  | .reconcile now =>
    match control.worker with
    | .candidate revision =>
      some { control with worker := control.attemptWorker revision now }
    | _ => none
  | .acquire owned =>
    match control.worker with
    | .acquiring attempt =>
      some { control with worker := acquiredWorker attempt owned }
    | _ => none
  | .write answer =>
    match control.worker with
    | .writing attempt axis =>
      some (control.writeAxis attempt axis answer)
    | _ => none
  | .classify online =>
    match control.worker with
    | .classifying attempt error =>
      some
        { control with worker := classifiedWorker attempt error online }
    | _ => none
  | .record stored =>
    match control.worker with
    | .recordingApplied attempt =>
      some
        { control with
          worker := .waiting
          snapshot :=
            if stored then control.storeApplied attempt
            else control.snapshot }
    | .recordingUnapplied attempt convergence reasonCode message =>
      some
        { control with
          worker := .waiting
          snapshot :=
            if stored then
              control.snapshot.recordUnapplied attempt.snapshot.revision
                convergence reasonCode (some message)
                attempt.attemptedAt
            else control.snapshot }
    | _ => none
  | .restart now landed =>
    some
      { control.land landed with
        worker := .waiting
        snapshot :=
          control.snapshot.resetConfirmationForRuntimeStart now }

/-- The runtime as an event machine. -/
def machine : Machine EnvironmentControl EnvironmentEvent where
  step := step

end EnvironmentControl

end VendingSystem.Daemon
