import VendingSystem.Machine
import VendingSystem.Table
import VendingSystem.Text

namespace VendingSystem.Daemon

/-!
# Environment control

The desired settings are stored with what the hardware has confirmed.  One
worker reconciles them: it writes the axes that are not confirmed at their
desired value and stores a confirmation when all writes succeeded.  The lower
controller keeps the last value that took effect on each axis.
-/

abbrev EnvironmentTime := Nat
abbrev ActionId := String

/-- In the order in which an attempt writes them. -/
inductive Axis where
  | targetTemperature
  | airConditioner
  | ventSpeed
  deriving Repr, DecidableEq

abbrev Axis.Value : Axis → Type
  | .targetTemperature => Int
  | .airConditioner => Bool
  | .ventSpeed => Nat

instance (axis : Axis) : DecidableEq axis.Value := by
  cases axis
  all_goals exact inferInstance

def Axis.next : Axis → Option Axis
  | .targetTemperature => some .airConditioner
  | .airConditioner => some .ventSpeed
  | .ventSpeed => none

/-- The axes that an attempt has been through before this one. -/
def Axis.earlier : Axis → List Axis
  | .targetTemperature => []
  | .airConditioner => [.targetTemperature]
  | .ventSpeed => [.targetTemperature, .airConditioner]

/-- One value for each axis, as desired or as the controller has it. -/
structure DesiredEnvironmentControl where
  airConditionerEnabled : Bool
  targetTemperatureCelsius : Int
  ventSpeed : Nat
  deriving Repr, DecidableEq

def DesiredEnvironmentControl.get
    (control : DesiredEnvironmentControl) : (axis : Axis) → axis.Value
  | .targetTemperature => control.targetTemperatureCelsius
  | .airConditioner => control.airConditionerEnabled
  | .ventSpeed => control.ventSpeed

def DesiredEnvironmentControl.set
    (control : DesiredEnvironmentControl) :
    (axis : Axis) → axis.Value → DesiredEnvironmentControl
  | .targetTemperature, value =>
    { control with targetTemperatureCelsius := value }
  | .airConditioner, value =>
    { control with airConditionerEnabled := value }
  | .ventSpeed, value => { control with ventSpeed := value }

/-- The registers of the lower controller. -/
abbrev EnvironmentRegisters := DesiredEnvironmentControl

structure ConfirmedEnvironmentControl where
  airConditionerEnabled : Option Bool
  targetTemperatureCelsius : Option Int
  ventSpeed : Option Nat
  deriving Repr, DecidableEq

def ConfirmedEnvironmentControl.get
    (control : ConfirmedEnvironmentControl) :
    (axis : Axis) → Option axis.Value
  | .targetTemperature => control.targetTemperatureCelsius
  | .airConditioner => control.airConditionerEnabled
  | .ventSpeed => control.ventSpeed

def ConfirmedEnvironmentControl.nothing : ConfirmedEnvironmentControl where
  airConditionerEnabled := none
  targetTemperatureCelsius := none
  ventSpeed := none

/-- A confirmation of all axes. -/
def DesiredEnvironmentControl.confirmed
    (control : DesiredEnvironmentControl) : ConfirmedEnvironmentControl where
  airConditionerEnabled := some control.airConditionerEnabled
  targetTemperatureCelsius := some control.targetTemperatureCelsius
  ventSpeed := some control.ventSpeed

/-- A confirmation is only stored in the ranges of the controller. -/
def DesiredEnvironmentControl.validate
    (control : DesiredEnvironmentControl) : Bool :=
  18 ≤ control.targetTemperatureCelsius &&
    control.targetTemperatureCelsius ≤ 30 && control.ventSpeed ≤ 4

inductive EnvironmentControlSource where
  | localOperator
  | remoteOperator
  | stablePresence
  | automaticPolicy
  | systemLifecycle
  deriving Repr, DecidableEq

inductive EnvironmentControlActionKind where
  | setAirConditioner (enabled : Bool)
  | setTargetTemperature (temperatureCelsius : Int)
  | setBaseVentSpeed (ventSpeed : Nat)
  | temporarilyStopVent
  | restoreBaseVentSpeed
  | retryCurrentDesired
  deriving Repr, DecidableEq

def EnvironmentControlActionKind.name :
    EnvironmentControlActionKind → String
  | .setAirConditioner _ => "set_air_conditioner"
  | .setTargetTemperature _ => "set_target_temperature"
  | .setBaseVentSpeed _ => "set_base_vent_speed"
  | .temporarilyStopVent => "temporarily_stop_vent"
  | .restoreBaseVentSpeed => "restore_base_vent_speed"
  | .retryCurrentDesired => "retry_current_desired"

def EnvironmentControlActionKind.validate :
    EnvironmentControlActionKind → Except String Unit
  | .setTargetTemperature temperatureCelsius =>
    if 18 ≤ temperatureCelsius ∧ temperatureCelsius ≤ 30 then .ok ()
    else .error "target temperature must be between 18 and 30 Celsius"
  | .setBaseVentSpeed ventSpeed =>
    if 4 < ventSpeed then
      .error "base vent speed must be between 0 and 4"
    else .ok ()
  | _ => .ok ()

structure EnvironmentControlAction where
  actionId : ActionId
  source : EnvironmentControlSource
  kind : EnvironmentControlActionKind
  deriving Repr, DecidableEq

def EnvironmentControlAction.validate
    (action : EnvironmentControlAction) : Except String Unit :=
  if isBlank action.actionId then
    .error "environment control action id is required"
  else if 128 < action.actionId.utf8ByteSize then
    .error "environment control action id exceeds 128 bytes"
  else action.kind.validate

structure EnvironmentControlSettings where
  airConditionerEnabled : Bool
  targetTemperatureCelsius : Int
  baseVentSpeed : Nat
  deriving Repr, DecidableEq

inductive EnvironmentControlConvergence where
  | pending
  | applied
  | offline
  | failed
  deriving Repr, DecidableEq

structure EnvironmentControlActionAudit where
  actionId : ActionId
  source : EnvironmentControlSource
  action : String
  acceptedAt : EnvironmentTime
  deriving Repr, DecidableEq

structure EnvironmentControlSnapshot where
  revision : Nat
  settings : EnvironmentControlSettings
  desired : DesiredEnvironmentControl
  confirmed : ConfirmedEnvironmentControl
  convergence : EnvironmentControlConvergence
  reasonCode : String
  message : Option String
  lastAction : Option EnvironmentControlActionAudit
  updatedAt : EnvironmentTime
  lastAttemptAt : Option EnvironmentTime
  confirmedAt : Option EnvironmentTime
  deriving Repr, DecidableEq

namespace EnvironmentControlSnapshot

def initial (now : EnvironmentTime) : EnvironmentControlSnapshot where
  revision := 0
  settings :=
    { airConditionerEnabled := false, targetTemperatureCelsius := 26
      baseVentSpeed := 3 }
  desired :=
    { airConditionerEnabled := false, targetTemperatureCelsius := 26
      ventSpeed := 0 }
  confirmed := .nothing
  convergence := .pending
  reasonCode := "initial_configuration"
  message := none
  lastAction := none
  updatedAt := now
  lastAttemptAt := none
  confirmedAt := none

/-- The settings and the desired state after an action. -/
def withAction
    (snapshot : EnvironmentControlSnapshot) :
    EnvironmentControlActionKind → EnvironmentControlSnapshot
  | .setAirConditioner enabled =>
    { snapshot with
      settings :=
        { snapshot.settings with airConditionerEnabled := enabled }
      desired := snapshot.desired.set .airConditioner enabled }
  | .setTargetTemperature temperatureCelsius =>
    { snapshot with
      settings :=
        { snapshot.settings with
          targetTemperatureCelsius := temperatureCelsius }
      desired :=
        snapshot.desired.set .targetTemperature temperatureCelsius }
  | .setBaseVentSpeed ventSpeed =>
    { snapshot with
      settings := { snapshot.settings with baseVentSpeed := ventSpeed }
      desired := snapshot.desired.set .ventSpeed ventSpeed }
  | .temporarilyStopVent =>
    { snapshot with desired := snapshot.desired.set .ventSpeed 0 }
  | .restoreBaseVentSpeed =>
    { snapshot with
      desired :=
        snapshot.desired.set .ventSpeed snapshot.settings.baseVentSpeed }
  | .retryCurrentDesired => snapshot

/-- An action leaves the desired state to be reconciled. -/
def transition
    (snapshot : EnvironmentControlSnapshot)
    (action : EnvironmentControlAction)
    (acceptedAt : EnvironmentTime) : EnvironmentControlSnapshot :=
  let retries := action.kind = .retryCurrentDesired
  { snapshot.withAction action.kind with
    revision :=
      if retries then snapshot.revision else snapshot.revision + 1
    convergence := .pending
    reasonCode :=
      if retries then "explicit_retry_requested" else "action_accepted"
    message := none
    lastAction :=
      some
        { actionId := action.actionId, source := action.source
          action := action.kind.name, acceptedAt }
    updatedAt := acceptedAt }

/-- A confirmation is stored for the revision that it was made for. -/
def recordApplied
    (snapshot : EnvironmentControlSnapshot)
    (revision : Nat)
    (confirmation : DesiredEnvironmentControl)
    (confirmedAt : EnvironmentTime) : EnvironmentControlSnapshot :=
  if revision ≠ snapshot.revision ∨ confirmation.validate = false then
    snapshot
  else
    { snapshot with
      confirmed := confirmation.confirmed
      convergence := .applied
      reasonCode := "hardware_confirmed"
      message := none
      updatedAt := confirmedAt
      lastAttemptAt := some confirmedAt
      confirmedAt := some confirmedAt }

def recordUnapplied
    (snapshot : EnvironmentControlSnapshot)
    (revision : Nat)
    (convergence : EnvironmentControlConvergence)
    (reasonCode : String)
    (message : Option String)
    (attemptedAt : EnvironmentTime) : EnvironmentControlSnapshot :=
  if revision ≠ snapshot.revision ∨ convergence = .applied ∨
      isBlank reasonCode then
    snapshot
  else
    { snapshot with
      convergence, reasonCode, message
      updatedAt := attemptedAt
      lastAttemptAt := some attemptedAt }

def resetConfirmationForRuntimeStart
    (snapshot : EnvironmentControlSnapshot)
    (now : EnvironmentTime) : EnvironmentControlSnapshot :=
  { snapshot with
    confirmed := .nothing
    convergence := .pending
    reasonCode := "runtime_started"
    message := none
    updatedAt := now
    lastAttemptAt := none
    confirmedAt := none }

/-- The worker has something to reconcile. -/
def isUnsettled (snapshot : EnvironmentControlSnapshot) : Bool :=
  snapshot.convergence = .pending || snapshot.convergence = .offline

end EnvironmentControlSnapshot

end VendingSystem.Daemon
