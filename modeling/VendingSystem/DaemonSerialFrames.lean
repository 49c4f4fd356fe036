import VendingSystem.DaemonStore

namespace VendingSystem.Daemon

/-!
# Frames of the lower controller's serial protocol

The host writes raw command frames, the lower controller answers with two-byte
codes.  A read of the port returns the next whole frame, so frames are the unit
of the line in both directions.
-/

def frameHead : UInt8 := 0x55

/-- One step of the CRC-8 register. -/
def crc8Shift (crc : UInt8) : UInt8 :=
  if crc &&& 0x80 ≠ 0 then (crc <<< 1) ^^^ 0x07 else crc <<< 1

def crc8 (data : List UInt8) : UInt8 :=
  data.foldl (fun crc byte => crc8Shift^[8] (crc ^^^ byte)) 0x00

structure SlotLayerBand where
  maxRowNo : Nat
  maxCellNo : Nat

def slotMinRowNo : Nat := 1

def slotMaxRowNo : Nat := 9

def slotLayerBands : List SlotLayerBand :=
  [{ maxRowNo := 6, maxCellNo := 5 },
    { maxRowNo := 8, maxCellNo := 4 },
    { maxRowNo := slotMaxRowNo, maxCellNo := 3 }]

def maxCellNoForLayer (rowNo : Nat) : Option Nat :=
  if rowNo < slotMinRowNo then none
  else
    (slotLayerBands.find? fun band => rowNo ≤ band.maxRowNo).map
      SlotLayerBand.maxCellNo

def validateSlotBounds (rowNo cellNo : Nat) : Except String Unit :=
  match maxCellNoForLayer rowNo with
  | none =>
    .error s!"rowNo {rowNo} is out of hardware bounds ({slotMinRowNo}-{slotMaxRowNo})"
  | some maxCell =>
    if 1 ≤ cellNo ∧ cellNo ≤ maxCell then .ok ()
    else
      .error
        s!"cellNo {cellNo} is out of hardware bounds for row {rowNo} (1-{maxCell})"

/-- The frame that asks the controller for one item of a slot. -/
def buildDispenseFrame (rowNo cellNo : Nat) : Except String (List UInt8) :=
  if 256 ≤ rowNo then .error s!"rowNo {rowNo} exceeds uint8 protocol range"
  else if 256 ≤ cellNo then
    .error s!"cellNo {cellNo} exceeds uint8 protocol range"
  else do
    validateSlotBounds rowNo cellNo
    let layer := UInt8.ofNat rowNo
    let cell := UInt8.ofNat cellNo
    return [frameHead, layer, cell, crc8 [layer, cell]]

def buildStatusQueryFrame : List UInt8 := [frameHead, 0xA0]

def debugDispenseFaultFrame : List UInt8 := [frameHead, 0xFF, 0xFF, 0xFF]

structure EnvironmentSample where
  temperatureCelsius : Int
  relativeHumidityPercent : Nat
  deriving Repr, DecidableEq

inductive AirConditionerMode where
  | cooling
  | heating
  deriving Repr, DecidableEq

inductive AirConditionerSwitchState where
  | on
  | softOff
  | hardOff
  deriving Repr, DecidableEq

inductive VentSpeed where
  | closed
  | low
  | medium
  | high
  | full
  deriving Repr, DecidableEq

/-- What the lower controller sends. -/
inductive LowerFrame where
  | ack
  | boundaryError
  | crcError
  | mechanicalError
  | busy
  | pickupTimeout
  | pickupPlatformBlocked
  | arrivalAtOutlet
  | pickupCompleted
  | resetCompletedFrame
  | idleHeartbeat
  | dispensingHeartbeat
  | pickupHeartbeat
  | resetHeartbeat
  | environmentSample (sample : EnvironmentSample)
  | airConditionerTargetEcho
      (mode : AirConditionerMode)
      (temperatureCelsius : Int)
  | airConditionerSwitchEcho (state : AirConditionerSwitchState)
  | ventSpeedEcho (speed : VentSpeed)
  | unknown (code : UInt8)
  deriving Repr, DecidableEq

namespace LowerFrame

def isHeartbeat : LowerFrame → Bool
  | idleHeartbeat | dispensingHeartbeat | pickupHeartbeat | resetHeartbeat =>
    true
  | _ => false

def isLowerControllerStatus (frame : LowerFrame) : Bool :=
  frame.isHeartbeat || frame == mechanicalError ||
    frame == pickupPlatformBlocked

def indicatesCommandInProgress : LowerFrame → Bool
  | dispensingHeartbeat | pickupHeartbeat | resetHeartbeat => true
  | _ => false

def describe : LowerFrame → String
  | ack => "acknowledged"
  | boundaryError => "command boundary check failed"
  | crcError => "crc check failed"
  | mechanicalError => "mechanical fault"
  | busy => "controller busy"
  | pickupTimeout => "pickup timed out"
  | pickupPlatformBlocked => "pickup platform blocked"
  | arrivalAtOutlet => "goods arrived at outlet"
  | pickupCompleted => "pickup completed and outlet closed"
  | resetCompletedFrame => "dispense completed and reset to origin"
  | idleHeartbeat => "idle heartbeat"
  | dispensingHeartbeat => "dispensing heartbeat"
  | pickupHeartbeat => "pickup heartbeat"
  | resetHeartbeat => "resetting to origin"
  | environmentSample _ => "environment sample"
  | airConditionerTargetEcho _ _ => "air conditioner target accepted"
  | airConditionerSwitchEcho _ => "air conditioner switch accepted"
  | ventSpeedEcho _ => "vent speed accepted"
  | unknown _ => "unknown frame"

end LowerFrame

/-- How a dispense failed. -/
structure DispenseFailure where
  errorCode : String
  message : String
  lowerControllerFault : Option LowerControllerFault
  deriving Repr, DecidableEq

namespace DispenseFailure

def timeout (message : String) : DispenseFailure where
  errorCode := "MOTOR_TIMEOUT"
  message := message
  lowerControllerFault := none

def unknown (message : String) : DispenseFailure where
  errorCode := "UNKNOWN"
  message := message
  lowerControllerFault := none

def sharedMechanical (message : String) : DispenseFailure where
  errorCode := "JAMMED"
  message := message
  lowerControllerFault := some .sharedMechanical

def pickupPlatformBlocked (message : String) : DispenseFailure where
  errorCode := "JAMMED"
  message := message
  lowerControllerFault := some .pickupPlatformBlocked

end DispenseFailure

/-- A byte as two upper-case hexadecimal digits. -/
def hexByte (code : UInt8) : String :=
  String.ofList
    [(Nat.digitChar (code.toNat / 16)).toUpper,
      (Nat.digitChar (code.toNat % 16)).toUpper]

def LowerFrame.toFailure : LowerFrame → Option DispenseFailure
  | .boundaryError => some (.unknown
      "lower controller rejected command: boundary check failed")
  | .crcError => some (.unknown
      "lower controller rejected command: crc check failed")
  | .mechanicalError => some (.sharedMechanical
      "lower controller reported mechanical fault during dispense")
  | .busy => some (.unknown
      "lower controller rejected command: controller busy")
  | .pickupTimeout => some (.timeout
      "lower controller reported pickup timed out during dispense")
  | .pickupPlatformBlocked => some (.pickupPlatformBlocked
      "lower controller reported pickup platform blocked")
  | .unknown code => some (.unknown
      ("lower controller returned unknown frame code 0x" ++ hexByte code))
  | _ => none

/-- Where a dispense stands for the customer. -/
inductive DispenseProgressStage where
  | outletOpened
  | pickupWaiting
  | pickupCompleted
  | pickupTimeoutWarning
  | resetCompleted
  deriving Repr, DecidableEq

/-- What a progress observer is told, less the time of the report. -/
structure DispenseProgressEvent where
  commandNo : CommandNo
  orderNo : OrderNo
  stage : DispenseProgressStage
  warningNo : Option Nat
  message : String
  deriving Repr, DecidableEq

end VendingSystem.Daemon
